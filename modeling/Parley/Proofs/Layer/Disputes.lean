import Parley.Proofs.Layer.Scopes
import Parley.Proofs.Layer.Settings

/-!
# What layers disagree on

A merge reports a conflict exactly where a layer replaces the value of a plain field that another
one, or itself, has set to something else.  Each conflict can be read off the declarations before
it.

* `Declared.held?`: the value of a field, with the layer that has set it;
* `Declared.clashes`, `Declared.conflicts`: the conflicts of one declaration, and of all in order;
* `Log.settings_plain`: what the settings of a patch add to a log;
* `Draft.Declares`, `Draft.declare_declares`: what a draft makes of one more declaration;
* `Draft.ofDeclarations_held?`: what it makes of all of them;
* `Layer.merge_conflicts`.
-/

namespace Parley

/-! ### Conflicts of declarations -/

/-- The name of an element in reports, given what stands before the names in its scope. -/
def Element.name (before : String) : Element → String
  | .flow => Draft.scopeElement before
  | .node id => before ++ id
  | .edge key => before ++ key

namespace Declared

/-- The value that a field of an element has, and the layer that has set it. -/
def held? (ds : Declared) (e : Element) (field : String) : Option (String × Plain) :=
  lastSet (fun d => (d.2.plain? field).map (d.1, ·)) (ds.since e)

/-- The conflict that arises where a layer sets a field that has a value: none if it is the same
value or, unless the field is an entry, if it was blank. -/
def clash (e : Element) (before layer field : String) (value : Plain) :
    String × Plain → Option Conflict
  | (loser, old) =>
      if old = value ∨ e ≠ .flow ∧ old.isBlank = true then none
      else some ⟨e.name before, field, loser, old.toJson, layer, value.toJson⟩

/-- The conflicts that arise from one more declaration, given the values that fields have. -/
def clashes (before : String) (held : Element → String → Option (String × Plain))
    (d : String × Declaration) :
    List Conflict :=
  plainFields.filterMap fun field =>
    (d.2.plain? field).bind fun value => (held d.2.element field).bind
      (clash d.2.element before d.1 field value)

/-- The conflicts that arise from declarations, after others that have come before them. -/
def conflictsAfter (before : String) : Declared → Declared → List Conflict
  | _, [] => []
  | past, d :: ds => clashes before past.held? d ++ conflictsAfter before (past ++ [d]) ds

/-- All conflicts that arise from declarations, in order. -/
def conflicts (before : String) (ds : Declared) : List Conflict := conflictsAfter before [] ds

theorem conflictsAfter_concat (before : String) (past ds : Declared) (d : String × Declaration) :
    conflictsAfter before past (ds ++ [d]) =
      conflictsAfter before past ds ++ clashes before (past ++ ds).held? d := by
  induction ds generalizing past with
  | nil => simp [conflictsAfter]
  | cons d' ds ih =>
    rw [List.cons_append, conflictsAfter, conflictsAfter, ih, List.append_assoc, List.append_assoc]
    rfl

theorem conflicts_concat (before : String) (ds : Declared) (d : String × Declaration) :
    conflicts before (ds ++ [d]) = conflicts before ds ++ clashes before ds.held? d :=
  conflictsAfter_concat before [] ds d

/-- A declaration sets the fields of its element, or takes all values away. -/
theorem held?_concat (ds : Declared) (d : String × Declaration) (e : Element) (field : String) :
    held? (ds ++ [d]) e field =
      if d.2.element = e then
        if d.2.removes then none else ((d.2.plain? field).map (d.1, ·)).or (ds.held? e field)
      else ds.held? e field := by
  unfold held?
  rw [since_concat]
  split
  · split
    · rfl
    · rw [lastSet_concat]
  · rfl

end Declared

/-! ### Fields of `ui` -/

/-- Whether a field is a `ui` object or a member of one. -/
def isInUi (field : String) : Bool := field = "ui" || "ui.".toList.isPrefixOf field.toList

theorem isInUi_member {name : String} (h : isInUi name = true) (k : String) :
    isInUi (name ++ "." ++ k) = true := by
  unfold isInUi at h ⊢
  simp only [Bool.or_eq_true, decide_eq_true_eq, List.isPrefixOf_iff_prefix] at h ⊢
  right
  rw [String.toList_append, String.toList_append]
  rcases h with rfl | h
  · exact List.prefix_append _ _
  · exact (h.trans (List.prefix_append _ _)).trans (List.prefix_append _ _)

theorem isInUi_of_plain {field : String} (hfield : field ∈ plainFields) : isInUi field = false := by
  revert field
  decide

theorem heads_of_plain {field : String} (hfield : field ∈ plainFields) :
    Text.heads '.' field = [field] := by
  revert field
  decide

namespace Log

/-- Logs that differ in `ui` alone. -/
structure AgreesOffUi (log log' : Log) : Prop where
  conflicts : log'.conflicts.filter (fun c => !isInUi c.field) = log.conflicts.filter fun c =>
    !isInUi c.field
  origins : ∀ field, isInUi field = false →
      Dict.get? log'.origins field = Dict.get? log.origins field

theorem AgreesOffUi.trans {log log' log'' : Log} (h : log.AgreesOffUi log')
    (h' : log'.AgreesOffUi log'') :
    log.AgreesOffUi log'' :=
  ⟨h'.conflicts.trans h.conflicts, fun field hfield =>
    (h'.origins field hfield).trans (h.origins field hfield)⟩

/-- The conflict that arises where a value is laid over another. -/
def conflict? (site : Site) (field loser : String) (previous : Option Json) (value : Json) :
    Option Conflict :=
  previous.bind fun old =>
    if old.isVoid || old.same value then none else
      some ⟨site.element, field, loser, old, site.layer, value⟩

theorem record_eq (site : Site) (field : String) (previous : Option Json) (value : Json)
    (log : Log) :
    record site field previous value log =
      ⟨log.origins.insert field site.layer, log.conflicts ++
        (conflict? site field ((log.origins.find? field).getD "base") previous value).toList⟩ := by
  unfold record conflict?
  cases previous with
  | none => simp
  | some old =>
    dsimp only [Option.bind_some]
    split <;> simp

theorem conflict?_field {site : Site} {field loser : String} {previous : Option Json} {value : Json}
    {c : Conflict} (h : conflict? site field loser previous value = some c) : c.field = field := by
  obtain ⟨old, -, h⟩ := Option.bind_eq_some_iff.1 h
  split_ifs at h
  cases h
  rfl

theorem filter_toList_conflict? (site : Site) (field loser : String) (previous : Option Json)
    (value : Json) :
    (conflict? site field loser previous value).toList.filter (fun c => !isInUi c.field) =
      if isInUi field then [] else (conflict? site field loser previous value).toList := by
  cases h : conflict? site field loser previous value with
  | none => simp
  | some c =>
    rw [Option.toList_some, List.filter_singleton, conflict?_field h]
    cases isInUi field <;> rfl

/-- What is recorded for a field does not show on fields of another sort. -/
theorem record_elsewhere (site : Site) {name : String} {p : String → Bool} (hname : p name = false)
    (previous : Option Json) (value : Json) (log : Log) :
    ((record site name previous value log).conflicts.filter (fun c => p c.field) =
        log.conflicts.filter fun c => p c.field) ∧
      ∀ field, p field = true →
        Dict.get? (record site name previous value log).origins field =
          Dict.get? log.origins field := by
  rw [record_eq]
  refine ⟨?_, fun field hfield => ?_⟩
  · rw [List.filter_append]
    refine List.append_right_eq_self.2 (List.filter_eq_nil_iff.2 fun c hc => ?_)
    rw [conflict?_field (Option.mem_toList.1 hc), hname]
    exact Bool.false_ne_true
  · rw [Dict.get?_insert, if_neg]
    rintro rfl
    rw [hname] at hfield
    cases hfield

theorem record_agreesOffUi (site : Site) {name : String} (hname : isInUi name = true)
    (previous : Option Json) (value : Json) (log : Log) :
    log.AgreesOffUi (record site name previous value log) := by
  have hoff : (!isInUi name) = false := by rw [hname, Bool.not_true]
  obtain ⟨hconflicts, horigins⟩ :=
    record_elsewhere (p := fun field => !isInUi field) site hoff previous value log
  exact ⟨hconflicts, fun field hfield => horigins field (by rw [hfield, Bool.not_false])⟩

mutual

/-- What is laid over a `ui` object stays within `ui`. -/
theorem field_agreesOffUi (site : Site) {name : String} (hname : isInUi name = true)
    (previous : Option Json) :
    ∀ (value : Json) (log : Log), log.AgreesOffUi (field site name previous value log)
  | .object upper, log => by
      unfold field
      split
      · exact members_agreesOffUi site hname _ upper log
      · exact record_agreesOffUi site hname _ _ log
  | .null, log => by
      unfold field
      exact record_agreesOffUi site hname _ _ log
  | .bool b, log => by
      unfold field
      exact record_agreesOffUi site hname _ _ log
  | .number n, log => by
      unfold field
      exact record_agreesOffUi site hname _ _ log
  | .string s, log => by
      unfold field
      exact record_agreesOffUi site hname _ _ log
  | .array items, log => by
      unfold field
      exact record_agreesOffUi site hname _ _ log

theorem members_agreesOffUi (site : Site) {name : String} (hname : isInUi name = true)
    (lower : Dict Json) :
    ∀ (upper : List (String × Json)) (log : Log),
      log.AgreesOffUi (members site name lower upper log)
  | [], log => by
      unfold members
      exact ⟨rfl, fun _ _ => rfl⟩
  | (k, value) :: upper, log => by
      unfold members
      exact (field_agreesOffUi site (isInUi_member hname k) _ value log).trans
        (members_agreesOffUi site hname lower upper _)

end

/-- A plain value is recorded. -/
theorem field_plain (site : Site) (name : String) (previous : Option Json) (value : Plain)
    (log : Log) :
    field site name previous value.toJson log = record site name previous value.toJson log := by
  cases value <;> rfl

/-- Settings whose fields are plain, but for `ui`. -/
structure IsPlain (settings : Dict Json) : Prop where
  plain : ∀ m ∈ Dict.erase settings "ui", m.1 ∈ plainFields ∧ ∃ value : Plain, m.2 = value.toJson
  nodup : ((Dict.erase settings "ui").map Prod.fst).Nodup

theorem IsPlain.of_cons {m : String × Json} {upper : Dict Json} (h : IsPlain (m :: upper)) :
    IsPlain upper := by
  have hsub : (Dict.erase upper "ui").Sublist (Dict.erase (m :: upper) "ui") :=
    (List.sublist_cons_self m upper).filter _
  exact ⟨fun m' hm' => h.plain m' (hsub.subset hm'), (hsub.map Prod.fst).nodup h.nodup⟩

/-- Each setting of a patch is recorded for itself, and what is laid over `ui` does not matter. -/
theorem settings_plain (site : Site) (lower : Dict Json) {upper : Dict Json} (h : IsPlain upper)
    (log : Log) :
    ((settings site lower upper log).conflicts.filter (fun c => !isInUi c.field) =
        log.conflicts.filter (fun c => !isInUi c.field) ++
          (Dict.erase upper "ui").filterMap fun m =>
            conflict? site m.1 ((Dict.get? log.origins m.1).getD "base") (lower.get? m.1) m.2) ∧
      ∀ field ∈ plainFields, Dict.get? (settings site lower upper log).origins field =
        if (Dict.get? upper field).isSome then some site.layer else
          Dict.get? log.origins field := by
  induction upper generalizing log with
  | nil => exact ⟨(List.append_nil _).symm, fun _ _ => rfl⟩
  | cons m upper ih =>
    obtain ⟨name, value⟩ := m
    obtain ⟨hconflicts, horigins⟩ := ih h.of_cons (field site name (lower.get? name) value log)
    have hrun : settings site lower ((name, value) :: upper) log =
        settings site lower upper (field site name (lower.get? name) value log) := rfl
    rw [hrun]
    by_cases hname : name = "ui"
    · -- no plain field has to do with what is laid over `ui`
      subst hname
      have hoff := field_agreesOffUi site (rfl : isInUi "ui" = true) (lower.get? "ui") value log
      have herase : Dict.erase (("ui", value) :: upper) "ui" = Dict.erase upper "ui" := by
        simp [Dict.erase]
      refine ⟨?_, fun field hfield => ?_⟩
      · rw [hconflicts, hoff.conflicts, herase]
        congr 1
        refine List.filterMap_congr fun m hm => ?_
        rw [hoff.origins m.1 (isInUi_of_plain (h.of_cons.plain m hm).1)]
      · rw [horigins field hfield, hoff.origins field (isInUi_of_plain hfield), Dict.get?,
          if_neg (ui_ne_of_plain hfield)]
    · have herase : Dict.erase ((name, value) :: upper) "ui" = (name, value) ::
          Dict.erase upper "ui" := by
        simp [Dict.erase, hname]
      obtain ⟨hplain, v, rfl⟩ : name ∈ plainFields ∧ ∃ v : Plain, value = v.toJson :=
        h.plain (name, value) (herase ▸ List.mem_cons_self)
      -- the rest does not set this field again, so it finds the origins of its own fields as they
      -- were
      have hnew : name ∉ (Dict.erase upper "ui").map Prod.fst := by
        have hnodup := h.nodup
        rw [herase] at hnodup
        exact (List.nodup_cons.1 hnodup).1
      have hfind : log.origins.find? name = Dict.get? log.origins name := by
        rw [Origins.find?, heads_of_plain hplain]
        simp
      rw [field_plain, record_eq, hfind] at hconflicts horigins ⊢
      refine ⟨?_, fun field hfield => ?_⟩
      · rw [hconflicts, herase, List.filter_append, filter_toList_conflict?, isInUi_of_plain hplain,
          filterMap_cons_toList, List.append_assoc]
        congr 2
        refine List.filterMap_congr fun m hm => ?_
        have hne : name ≠ m.1 := fun heq => hnew (heq ▸ List.mem_map_of_mem hm)
        rw [Dict.get?_insert, if_neg hne]
      · rw [horigins field hfield, Dict.get?_insert, Dict.get?]
        by_cases hfield' : name = field
        · simp [hfield']
        · simp [hfield']

theorem isPlain_of_erase {upper : Dict Json} {value? : String → Option Plain}
    (h : Dict.erase upper "ui" = plainMembers value?) : IsPlain upper := by
  refine ⟨fun m hm => mem_plainMembers (h ▸ hm), ?_⟩
  rw [h, map_fst_plainMembers]
  exact List.Nodup.filter _ (by decide)

/-- What laying settings over others makes of the fields of an element, and the conflicts that
arise. -/
theorem settings_held {e : Element} (he : e ≠ .flow) (before layer : String)
    {lower upper : Dict Json} {below value? : String → Option Plain}
    (hlower : ∀ field ∈ plainFields, Dict.get? lower field = (below field).map Plain.toJson)
    (hupper : Dict.erase upper "ui" = plainMembers value?) (log : Log) :
    ((settings ⟨e.name before, layer⟩ lower upper log).conflicts.filter (fun c => !isInUi c.field) =
        log.conflicts.filter (fun c => !isInUi c.field) ++ plainFields.filterMap fun field =>
          (value? field).bind fun value =>
            ((below field).map fun old => ((Dict.get? log.origins field).getD "base", old)).bind
              (Declared.clash e before layer field value)) ∧
      ∀ field ∈ plainFields,
        (((value? field).or (below field)).map fun value =>
          ((Dict.get? (settings ⟨e.name before, layer⟩ lower upper log).origins field).getD "base",
            value)) =
          ((value? field).map (layer, ·)).or
            ((below field).map fun old => ((Dict.get? log.origins field).getD "base", old)) := by
  obtain ⟨hconflicts, horigins⟩ :=
    settings_plain ⟨e.name before, layer⟩ lower (isPlain_of_erase hupper) log
  refine ⟨?_, fun field hfield => ?_⟩
  · rw [hconflicts, hupper, plainMembers, List.filterMap_filterMap]
    congr 1
    refine List.filterMap_congr fun field hfield => ?_
    cases value? field with
    | none => rfl
    | some value =>
      rw [Option.map_some, Option.bind_some, Option.bind_some, hlower field hfield]
      cases below field with
      | none => rfl
      | some old =>
        simp only [Option.map_some, Option.bind_some, conflict?, Declared.clash,
          Plain.isVoid_toJson, Plain.same_toJson]
        refine if_congr ?_ rfl rfl
        simp [he, or_comm]
  · have hget : Dict.get? upper field = (value? field).map Plain.toJson := by
      rw [← get?_plainMembers value? hfield, ← hupper, Dict.get?_erase,
        if_neg (ui_ne_of_plain hfield)]
    rw [horigins field hfield, hget]
    cases value? field <;> simp

end Log

/-! ### Drafts -/

namespace Draft

/-- The value that a field of an element has, and the layer that has set it, given what is held of
the element. -/
def valueOf {α : Type} (plain? : α → String → Option Plain) (held : Held α) (field : String) :
    Option (String × Plain) :=
  (plain? held.patch field).map fun value => ((Dict.get? held.origins field).getD "base", value)

/-- The value that a field of an element has in a draft, and the layer that has set it. -/
def held? (d : Draft) : Element → String → Option (String × Plain)
  | .flow, field => if field = "entry" then d.entry.map fun e => (e.1, .text e.2) else none
  | .node id, field => (d.nodes.get? id).bind fun held => valueOf NodePatch.plain? held field
  | .edge key, field => (d.edges.get? key).bind fun held => valueOf EdgePatch.plain? held field

variable {d : Draft} (before : String)

/-- What a declaration of a layer makes of the fields of a draft, and the conflicts that arise. -/
structure Declares (before : String) (d d' : Draft) (x : String × Declaration) : Prop where
  held : ∀ e, ∀ field ∈ plainFields, d'.held? e field =
    if x.2.element = e then
      if x.2.removes then none else ((x.2.plain? field).map (x.1, ·)).or (d.held? e field)
    else d.held? e field
  conflicts : d'.conflicts.filter (fun c => !isInUi c.field) =
    d.conflicts.filter (fun c => !isInUi c.field) ++ Declared.clashes before d.held? x

/-- An entry is the one field that a declaration of it sets. -/
theorem clashes_entry (held : Element → String → Option (String × Plain)) (layer : String)
    (id : NodeId) :
    Declared.clashes before held (layer, .entry id) =
      ((held .flow "entry").bind
        (Declared.clash .flow before layer "entry" (.text id))).toList := by
  unfold Declared.clashes
  rw [plainFields, filterMap_cons_toList, List.filterMap_eq_nil_iff.2, List.append_nil]
  · rfl
  · intro field hfield
    have hne : field ≠ "entry" := by
      rintro rfl
      revert hfield
      decide
    simp [Declaration.plain?, hne]

theorem setEntry_declares (d : Draft) (layer : String) (id : NodeId) :
    Declares before d (d.setEntry before layer id) (layer, .entry id) where
  held e field _ := by
    cases e with
    | node _ => rfl
    | edge _ => rfl
    | flow =>
      show (if field = "entry" then some (layer, Plain.text id) else none) =
        ((if field = "entry" then some (Plain.text id) else none).map (layer, ·)).or
          (if field = "entry" then d.entry.map fun e => (e.1, Plain.text e.2) else none)
      split <;> rfl
  conflicts := by
    rw [clashes_entry]
    unfold setEntry
    rw [List.filter_append]
    congr 1
    show _ = ((d.entry.map fun e => (e.1, Plain.text e.2)).bind _).toList
    cases d.entry with
    | none => rfl
    | some e =>
      obtain ⟨loser, lost⟩ := e
      have hfield : isInUi "entry" = false := rfl
      by_cases hid : lost = id
      · simp [Declared.clash, hid]
      · simp [Declared.clash, hid, hfield, Element.name, Plain.toJson]

/-- An element is taken away, with the values of its fields. -/
theorem Declares.remove {d' : Draft} {x : String × Declaration} (hx : x.2.removes = true)
    (hplain : ∀ field, x.2.plain? field = none) (hheld : ∀ field, d'.held? x.2.element field = none)
    (hother : ∀ e, x.2.element ≠ e → d'.held? e = d.held? e)
    (hconflicts : d'.conflicts = d.conflicts) : Declares before d d' x where
  held e field _ := by
    split
    · rename_i he
      rw [← he, hheld]
    · rename_i he
      rw [hother e he]
  conflicts := by
    have hclashes : Declared.clashes before d.held? x = [] := by
      refine List.filterMap_eq_nil_iff.2 fun field _ => ?_
      rw [hplain]
      rfl
    rw [hconflicts, hclashes, List.append_nil]

/-- The settings of a patch are laid over those of an element. -/
theorem Declares.overlay {d' : Draft} {x : String × Declaration} (hx : x.2.removes = false)
    (hflow : x.2.element ≠ .flow) {lower upper : Dict Json} (below : String → Option Plain)
    {origins : Origins}
    (hlower : ∀ field ∈ plainFields, Dict.get? lower field = (below field).map Plain.toJson)
    (hupper : Dict.erase upper "ui" = plainMembers x.2.plain?)
    (hbelow : ∀ field ∈ plainFields, d.held? x.2.element field =
      (below field).map fun old => ((Dict.get? origins field).getD "base", old)) {log : Log}
    (hlog : log = Log.settings ⟨x.2.element.name before, x.1⟩ lower upper ⟨origins, d.conflicts⟩)
    (hheld : ∀ field ∈ plainFields, d'.held? x.2.element field =
      ((x.2.plain? field).or (below field)).map fun value =>
        ((Dict.get? log.origins field).getD "base", value))
    (hother : ∀ e, x.2.element ≠ e → d'.held? e = d.held? e)
        (hconflicts : d'.conflicts = log.conflicts) :
    Declares before d d' x := by
  obtain ⟨hnew, hvalues⟩ := Log.settings_held hflow before x.1 hlower hupper ⟨origins, d.conflicts⟩
  refine ⟨fun e field hfield => ?_, ?_⟩
  · split
    · rename_i he
      subst he
      rw [hheld field hfield, hlog, hvalues field hfield, hx, ← hbelow field hfield]
      rfl
    · rename_i he
      rw [hother e he]
  · rw [hconflicts, hlog, hnew]
    congr 1
    refine List.filterMap_congr fun field hfield => ?_
    rw [hbelow field hfield]

theorem patchNode_declares (d : Draft) (layer : String) (p : NodePatch) :
    Declares before d (d.patchNode before layer p) (layer, .node p) := by
  have hother {nodes : Dict (Held NodePatch)}
    (hnodes : ∀ id, p.id ≠ id → nodes.get? id = d.nodes.get? id)
      {declared removed : List NodeId} {conflicts : List Conflict} (e : Element)
        (he : .node p.id ≠ e) :
      held? { d with declared, nodes, removed, conflicts } e = d.held? e := by
    cases e with
    | flow => rfl
    | edge _ => rfl
    | node id =>
      have hid : p.id ≠ id := fun heq => he (congrArg Element.node heq)
      funext field
      show (nodes.get? id).bind _ = (d.nodes.get? id).bind _
      rw [hnodes id hid]
  unfold patchNode
  split
  · rename_i hp
    refine Declares.remove before hp (fun _ => if_pos hp) (fun field => ?_)
      (hother fun id hid => ?_) rfl
    · show ((d.nodes.erase p.id).get? p.id).bind _ = none
      rw [Dict.get?_erase, if_pos rfl, Option.bind_none]
    · rw [Dict.get?_erase, if_neg hid]
  · rename_i hp
    have hplain : (Declaration.node p).plain? = p.plain? := funext fun _ => if_neg hp
    -- a node that is new is laid over a patch that sets nothing
    have hbelow (field : String) : d.held? (.node p.id) field =
        valueOf NodePatch.plain? ((d.nodes.get? p.id).getD ⟨{ id := p.id }, []⟩) field := by
      show (d.nodes.get? p.id).bind _ = _
      cases d.nodes.get? p.id with
      | none =>
        rw [Option.getD_none, valueOf, NodePatch.plain?_blank, Option.bind_none, Option.map_none]
      | some held => rfl
    refine Declares.overlay before (Bool.eq_false_iff.2 hp) (by simp [Declaration.element]) _
      (fun _ hfield => NodePatch.get?_settings _ hfield) (hplain ▸ p.erase_settings)
        (fun field _ => hbelow field) rfl
      (fun field hfield => ?_) (hother fun id hid => ?_) rfl
    · show ((d.nodes.insert p.id _).get? p.id).bind _ = _
      rw [Dict.get?_insert, if_pos rfl, Option.bind_some, valueOf,
        NodePatch.plain?_overlay _ _ hfield, hplain]
      rfl
    · rw [Dict.get?_insert, if_neg hid]

theorem patchEdge_declares (d : Draft) (layer : String) (p : EdgePatch) :
    Declares before d (d.patchEdge before layer p) (layer, .edge p) := by
  have hother {edges : Table String (Held EdgePatch)}
    (hedges : ∀ key, p.key ≠ key → edges.get? key = d.edges.get? key)
      {conflicts : List Conflict} (e : Element) (he : .edge p.key ≠ e) :
      held? { d with edges, conflicts } e = d.held? e := by
    cases e with
    | flow => rfl
    | node _ => rfl
    | edge key =>
      have hkey : p.key ≠ key := fun heq => he (congrArg Element.edge heq)
      funext field
      show (edges.get? key).bind _ = (d.edges.get? key).bind _
      rw [hedges key hkey]
  unfold patchEdge
  split
  · rename_i hp
    refine Declares.remove before hp (fun _ => if_pos hp) (fun field => ?_)
      (hother fun key hkey => ?_) rfl
    · show ((d.edges.erase p.key).get? p.key).bind _ = none
      rw [Table.get?_erase, if_pos rfl, Option.bind_none]
    · rw [Table.get?_erase, if_neg hkey]
  · rename_i hp
    have hplain : (Declaration.edge p).plain? = p.plain? := funext fun _ => if_neg hp
    have hpatch (field : String) (hfield : field ∈ plainFields) :
        ((d.edges.get? p.key).elim (newEdge p) fun held => held.patch.overlay p).plain? field =
          (p.plain? field).or ((d.edges.get? p.key).bind fun held => held.patch.plain? field) := by
      cases d.edges.get? p.key with
      | none => exact Option.or_none.symm
      | some held => exact EdgePatch.plain?_overlay _ _ hfield
    refine Declares.overlay before (Bool.eq_false_iff.2 hp) (by simp [Declaration.element])
      (fun field => (d.edges.get? p.key).bind fun held => held.patch.plain? field)
        (fun field hfield => ?_)
      (hplain ▸ p.erase_settings) (fun field _ => ?_) rfl (fun field hfield => ?_)
        (hother fun key hkey => ?_) rfl
    · cases d.edges.get? p.key with
      | none => rfl
      | some held => exact held.patch.get?_settings hfield
    · show (d.edges.get? p.key).bind _ = _
      cases d.edges.get? p.key <;> rfl
    · show ((d.edges.set p.key _).get? p.key).bind _ = _
      rw [Table.get?_set, if_pos rfl, Option.bind_some, valueOf, hplain, ← hpatch field hfield]
      rfl
    · rw [Table.get?_set, if_neg hkey]

/-- Whatever is declared, a draft makes of it what should be made of it. -/
theorem declare_declares (d : Draft) (x : String × Declaration) :
    Declares before d (d.declare before x) x := by
  obtain ⟨layer, id | p | p⟩ := x
  · exact setEntry_declares before d layer id
  · exact patchNode_declares before d layer p
  · exact patchEdge_declares before d layer p

/-- A draft has the values and the conflicts of all its declarations. -/
theorem ofDeclarations_held? (ds : Declared) :
    (∀ e, ∀ field ∈ plainFields, (ofDeclarations before ds).held? e field = ds.held? e field) ∧
      (ofDeclarations before ds).conflicts.filter (fun c => !isInUi c.field) =
        ds.conflicts before := by
  induction ds using List.reverseRecOn with
  | nil =>
    refine ⟨fun e field _ => ?_, rfl⟩
    cases e with
    | flow => exact ite_self _
    | node _ => rfl
    | edge _ => rfl
  | append_singleton ds x ih =>
    obtain ⟨hheld, hconflicts⟩ := ih
    have hdeclare : ofDeclarations before (ds ++ [x]) =
        (ofDeclarations before ds).declare before x := by
      rw [ofDeclarations, List.foldl_append]
      rfl
    have hstep := declare_declares before (ofDeclarations before ds) x
    rw [hdeclare]
    refine ⟨fun e field hfield => ?_, ?_⟩
    · rw [hstep.held e field hfield, Declared.held?_concat, hheld e field hfield]
    · rw [hstep.conflicts, hconflicts, Declared.conflicts_concat]
      congr 1
      refine List.filterMap_congr fun field hfield => ?_
      rw [hheld _ field hfield]

end Draft

/-- **Conflicts are exact.**  Outside of `ui`, the conflicts that a merge reports are those that
arise from the declarations of the layers, scope after scope and step after step: none is missing,
and none is made up. -/
theorem Layer.merge_conflicts {layers : List Layer} {m : Merged} (h : merge layers = .ok m) :
    ∃ paths, AreScopes layers paths ∧ m.conflicts.filter (fun c => !isInUi c.field) =
      paths.flatMap fun path => (declarationsAt layers path).conflicts
        (Overlay.prefixFrom "" path) := by
  obtain ⟨paths, hpaths, hconflicts⟩ := merge_scopes h
  refine ⟨paths, hpaths, ?_⟩
  rw [hconflicts, List.filter_flatMap]
  exact List.flatMap_congr fun path _ => (Draft.ofDeclarations_held? _ _).2

/-- The two layers of `Samples.houseRules` disagree on one prompt. -/
theorem Samples.houseRules_conflicts :
    Layer.merge houseRules = .ok ⟨houseFlow, [houseConflict]⟩ ∧
      ∃ paths, Layer.AreScopes houseRules paths ∧ [houseConflict] =
        paths.flatMap fun path => (Layer.declarationsAt houseRules path).conflicts
          (Overlay.prefixFrom "" path) :=
  ⟨merge_houseRules, Layer.merge_conflicts merge_houseRules⟩

end Parley
