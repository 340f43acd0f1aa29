import Parley.Proofs.Layer.Restored
import Parley.Proofs.Layer.Writes

/-!
# Who has set what a layer overrides in a `ui` object

A conflict on a `ui` object arises where a layer writes over a value that lies there.  It names the
layer of the nearest earlier write, found by the name of the field.  What has put the value in its
place is the last write around it, so the name is right wherever this write is also the innermost.

* `Write.ofUis`, `Write.exists_last_puts`: the writes of `ui` objects one over another, and where
  values come from;
* `Declared.uis`, `Declared.uiConflicts`: the `ui` objects of an element, and the conflicts that
  arise from them;
* `Draft.Tells`, `Draft.ofDeclarations_tells`: what a draft knows of them;
* `Write.Overrides`: what a conflict says of a write and of those before it;
* `Layer.merge_uiConflicts`, `Layer.merge_overrides`.
-/

namespace Parley

/-! ### Objects one over another -/

/-- What `ui` objects come to, each laid over those before it. -/
def Json.mergeUis (us : List (String × Dict Json)) : Option Json :=
  (mergeObjects (us.map Prod.snd)).map .object

namespace Write

variable {us : List (String × Dict Json)} {u : String × Dict Json} {place : List String} {v : Json}

/-- The writes of a layer that lays a `ui` object over earlier ones. -/
def ofUi (us : List (String × Dict Json)) (u : String × Dict Json) : List Write :=
  Json.writes u.1 [] (Json.mergeUis us) (.object u.2)

/-- The writes of layers that lay `ui` objects one over another. -/
def ofUis (us : List (String × Dict Json)) : List Write := flatMapAfter ofUi [] us

theorem ofUis_concat (us : List (String × Dict Json)) (u : String × Dict Json) :
    ofUis (us ++ [u]) = ofUis us ++ ofUi us u :=
  flatMapAfter_concat [] us u

theorem mergeUis_concat (us : List (String × Dict Json)) (u : String × Dict Json) :
    Json.mergeUis (us ++ [u]) = some (Json.laidOver (Json.mergeUis us) (.object u.2)) := by
  unfold Json.mergeUis
  rw [List.map_append, List.map_singleton, Json.mergeObjects_concat]
  cases Json.mergeObjects (us.map Prod.snd) <;> rfl

/-- **Every value in merged objects was put there by the last write around it.** -/
theorem exists_last_puts (hsorted : ∀ u ∈ us, (Json.object u.2).IsSorted)
    (h : (Json.mergeUis us).bind (Json.at? · place) = some v) :
    ∃ l, last? place (ofUis us) = some l ∧ l.Puts place v := by
  induction us using List.reverseRecOn generalizing v with
  | nil => cases h
  | append_singleton us u ih =>
    obtain ⟨hus, hu⟩ := List.forall_mem_append.1 hsorted
    rw [mergeUis_concat, Option.bind_some] at h
    rw [ofUis_concat, last?_append]
    rcases Json.puts_or_below u.1 [] (hu u (List.mem_singleton_self u)) h with
      ⟨l, hl, hputs⟩ | ⟨hnone, lower, v', hlower, hv', hgrows⟩
    · exact ⟨l, by rw [show last? place (ofUi us u) = some l from hl, Option.some_or], hputs⟩
    · obtain ⟨l, hl, rest, w, hplace, hw, hgrown⟩ := ih hus (v := v') (by rw [hlower]; exact hv')
      exact ⟨l, by rw [show last? place (ofUi us u) = none from hnone, Option.none_or, hl],
        rest, w, hplace, hw, hgrown.trans hgrows⟩

end Write

/-! ### Conflicts of declarations -/

namespace Declaration

/-- The `ui` object that a declaration sets. -/
def ui? : Declaration → Option (Dict Json)
  | .node p => p.ui
  | _ => none

end Declaration

namespace Declared

variable {ds : Declared} {d : String × Declaration} {e : Element}

/-- The `ui` objects that layers have set for an element since it was last taken away. -/
def uis (ds : Declared) (e : Element) : List (String × Dict Json) :=
  (ds.since e).filterMap fun d => d.2.ui?.map (d.1, ·)

/-- The conflicts on `ui` objects that arise from one more declaration. -/
def uiClashes (before : String) (past : Declared) (d : String × Declaration) : List Conflict :=
  if d.2.removes then []
  else
    d.2.ui?.elim [] fun ui =>
      Write.conflicts (d.2.element.name before) (Write.ofUis (past.uis d.2.element))
        (Write.ofUi (past.uis d.2.element) (d.1, ui))

/-- All conflicts on `ui` objects that arise from declarations, in order. -/
def uiConflicts (before : String) (ds : Declared) : List Conflict :=
  flatMapAfter (uiClashes before) [] ds

theorem uiConflicts_concat (before : String) (ds : Declared) (d : String × Declaration) :
    uiConflicts before (ds ++ [d]) = ds.uiConflicts before ++ ds.uiClashes before d :=
  flatMapAfter_concat [] ds d

theorem uis_concat (ds : Declared) (d : String × Declaration) (e : Element) :
    uis (ds ++ [d]) e =
      if d.2.element = e then if d.2.removes then [] else ds.uis e ++ (d.2.ui?.map (d.1, ·)).toList
        else ds.uis e := by
  unfold uis
  rw [since_concat]
  split
  · split
    · rfl
    · rw [List.filterMap_append]
      cases h : d.2.ui? <;> simp [h]
  · rfl

/-- If the objects that are declared are sorted, so are those of an element. -/
theorem isSorted_of_mem_uis (h : ∀ d ∈ ds, ∀ ui ∈ d.2.ui?, (Json.object ui).IsSorted) :
    ∀ u ∈ ds.uis e, (Json.object u.2).IsSorted := by
  intro u hu
  obtain ⟨d, hd, hu⟩ := List.mem_filterMap.1 hu
  obtain ⟨ui, hui, rfl⟩ := Option.map_eq_some_iff.1 hu
  exact h d (List.mem_filter.1 ((List.rtakeWhile_suffix _ _).subset hd)).1 ui hui

/-- Declarations that set no `ui` object give rise to no conflict. -/
theorem uiClashes_of_none (before : String) (past : Declared) (h : d.2.ui? = none) :
    past.uiClashes before d = [] := by
  rw [uiClashes, h]
  exact ite_self _

theorem filterMap_ui_nodePatches (ds : Declared) (e : Element) :
    (ds.since e).nodePatches.filterMap NodePatch.ui = (ds.uis e).map Prod.snd := by
  unfold nodePatches uis
  rw [List.filterMap_filterMap, List.map_filterMap]
  refine List.filterMap_congr fun d _ => ?_
  obtain ⟨layer, _ | p | _⟩ := d
  · rfl
  · cases h : p.ui <;> simp [Declaration.node?, Declaration.ui?, h]
  · rfl

end Declared

/-! ### Plain settings -/

namespace Log

/-- Logs that differ outside of `ui` alone. -/
structure AgreesOnUi (log log' : Log) : Prop where
  conflicts : log'.conflicts.filter (fun c => isInUi c.field) = log.conflicts.filter fun c =>
    isInUi c.field
  origins : ∀ field, isInUi field = true →
      Dict.get? log'.origins field = Dict.get? log.origins field

theorem AgreesOnUi.trans {log log' log'' : Log} (h : log.AgreesOnUi log')
    (h' : log'.AgreesOnUi log'') :
    log.AgreesOnUi log'' :=
  ⟨h'.conflicts.trans h.conflicts, fun field hfield =>
    (h'.origins field hfield).trans (h.origins field hfield)⟩

/-- Members that are plain. -/
def ArePlain (members : Dict Json) : Prop :=
  ∀ m ∈ members, m.1 ∈ plainFields ∧ ∃ value : Plain, m.2 = value.toJson

theorem record_agreesOnUi (site : Site) {name : String} (hname : name ∈ plainFields)
    (previous : Option Json) (value : Json) (log : Log) :
    log.AgreesOnUi (record site name previous value log) := by
  obtain ⟨hconflicts, horigins⟩ := record_elsewhere site (isInUi_of_plain hname) previous value log
  exact ⟨hconflicts, horigins⟩

theorem settings_agreesOnUi (site : Site) (lower : Dict Json) {upper : Dict Json}
    (hupper : ArePlain upper) (log : Log) :
    log.AgreesOnUi (settings site lower upper log) := by
  induction upper generalizing log with
  | nil => exact ⟨rfl, fun _ _ => rfl⟩
  | cons m upper ih =>
    obtain ⟨⟨hname, value, hvalue⟩, hupper⟩ := List.forall_mem_cons.1 hupper
    have hrecord := record_agreesOnUi site hname (lower.get? m.1) m.2 log
    rw [hvalue, ← field_plain, ← hvalue] at hrecord
    exact hrecord.trans (ih hupper _)

variable {log log' : Log} {ws : List Write} {cs : List Conflict}

theorem Tells.of_agrees (h : log.Tells ws cs) (h' : log.AgreesOnUi log') : log'.Tells ws cs :=
  ⟨fun field hfield => (h'.origins field hfield).trans (h.origins field hfield),
    h'.conflicts.trans h.conflicts⟩

end Log

theorem EdgePatch.arePlain_settings (p : EdgePatch) : Log.ArePlain p.settings := by
  rw [p.settings_eq]
  exact fun m hm => mem_plainMembers hm

/-- The settings of a node are plain, but for the `ui` object. -/
theorem NodePatch.exists_settings_eq (p : NodePatch) :
    ∃ front back, p.settings = front ++ (Json.memberIfSome "ui" .object p.ui ++ back) ∧
      Log.ArePlain front ∧ Log.ArePlain back := by
  have hname {α : Type} {name : String} {f : α → Json} {o : Option α} {m : String × Json}
      (hm : m ∈ Json.memberIfSome name f o) : m.1 = name := by
    cases o with
    | none => cases hm
    | some a => exact congrArg Prod.fst (List.mem_singleton.1 hm)
  -- a member is plain unless it is that of the object
  have hplain {m : String × Json} (hm : m ∈ p.settings) (hui : m.1 ≠ "ui") :
      m.1 ∈ plainFields ∧ ∃ value : Plain, m.2 = value.toJson := by
    have hmem : m ∈ plainMembers p.plain? := by
      rw [← p.erase_settings]
      exact List.mem_filter.2 ⟨hm, decide_eq_true hui⟩
    exact mem_plainMembers hmem
  refine ⟨_, _, (List.append_assoc ..).trans (List.append_assoc ..), fun m hm => hplain ?_ ?_,
    fun m hm => hplain ?_ ?_⟩
  · exact List.mem_append_left _ (List.mem_append_left _ (List.mem_append_left _ hm))
  · simp only [List.mem_append] at hm
    rcases hm with ((((((hm | hm) | hm) | hm) | hm) | hm) | hm) | hm <;> rw [hname hm] <;> decide
  · rcases List.mem_append.1 hm with hm | hm
    · exact List.mem_append_left _ (List.mem_append_right _ hm)
    · exact List.mem_append_right _ hm
  · rcases List.mem_append.1 hm with hm | hm <;> rw [hname hm] <;> decide

/-- The `ui` object is found among the settings of a node. -/
theorem NodePatch.get?_settings_ui (p : NodePatch) :
    Dict.get? p.settings "ui" = p.ui.map .object := by
  obtain ⟨front, back, hsettings, hfront, hback⟩ := p.exists_settings_eq
  have hnone {members : Dict Json} (hmembers : Log.ArePlain members) :
      members.get? "ui" = none := by
    refine Dict.get?_eq_none fun hui => ?_
    obtain ⟨m, hm, hname⟩ := List.mem_map.1 hui
    exact ui_ne_of_plain (hmembers m hm).1 hname.symm
  rw [hsettings, Dict.get?_append, Dict.get?_append, hnone hfront, hnone hback, Option.or_none,
    Option.none_or]
  cases p.ui <;> rfl

/-- What a patch does to a log that tells of the objects before it. -/
theorem Log.Tells.settings {log : Log} {us : List (String × Dict Json)} {cs : List Conflict}
    (h : log.Tells (Write.ofUis us) cs) {lower : NodePatch}
    (hlower : lower.ui.map Json.object = Json.mergeUis us) (element layer : String)
    (p : NodePatch) :
    (Log.settings ⟨element, layer⟩ lower.settings p.settings log).Tells
      (Write.ofUis (us ++ (p.ui.map (layer, ·)).toList))
      (cs ++ p.ui.elim [] fun ui => Write.conflicts element (Write.ofUis us)
        (Write.ofUi us (layer, ui))) := by
  obtain ⟨front, back, hsettings, hfront, hback⟩ := p.exists_settings_eq
  have hget : lower.settings.get? "ui" = Json.mergeUis us := lower.get?_settings_ui.trans hlower
  rw [hsettings]
  show (Log.settings _ _ _ _).Tells _ _
  unfold Log.settings
  rw [List.foldl_append, List.foldl_append]
  refine Tells.of_agrees ?_ (settings_agreesOnUi _ _ hback _)
  have hlog := h.of_agrees (settings_agreesOnUi ⟨element, layer⟩ lower.settings hfront log)
  cases p.ui with
  | none =>
    rw [Option.map_none, Option.toList_none, List.append_nil, Option.elim_none, List.append_nil]
    exact hlog
  | some ui =>
    rw [Option.map_some, Option.toList_some, Write.ofUis_concat]
    show (field _ (Write.field []) (lower.settings.get? "ui") (.object ui) _).Tells _ _
    rw [field_eq_foldl, hget]
    exact hlog.foldl element (Write.ofUi us (layer, ui))

/-! ### Drafts -/

namespace Draft

variable {before : String} {d : Draft} {ds : Declared} {x : String × Declaration}

/-- What a draft tells of the `ui` objects of nodes: the layers of the last writes, and
conflicts. -/
structure Tells (before : String) (d : Draft) (ds : Declared) : Prop where
  origins : ∀ id field, isInUi field = true →
    Dict.get? ((d.nodes.get? id).elim [] Held.origins) field =
      (Write.lastNamed? field (Write.ofUis (ds.uis (.node id)))).map Write.layer
  conflicts : d.conflicts.filter (fun c => isInUi c.field) = ds.uiConflicts before

theorem Tells.log (h : d.Tells before ds) (id : NodeId) :
    Log.Tells ⟨(d.nodes.get? id).elim [] Held.origins, d.conflicts⟩
      (Write.ofUis (ds.uis (.node id))) (ds.uiConflicts before) :=
  ⟨h.origins id, h.conflicts⟩

/-- A node that is held has the object that was set for it. -/
theorem TracksNodes.ui {declared : List NodeId} {nodes : Dict (Held NodePatch)}
    {removed : List NodeId} (h : TracksNodes declared nodes removed ds) (id : NodeId) :
    ((nodes.get? id).getD ⟨{ id := id }, []⟩).patch.ui.map Json.object =
      Json.mergeUis (ds.uis (.node id)) := by
  unfold Json.mergeUis
  rw [← Declared.filterMap_ui_nodePatches]
  cases hget : nodes.get? id with
  | none =>
    rw [(h.none_iff id).1 hget]
    rfl
  | some held =>
    rw [Option.getD_some, h.patch id held hget]
    rfl

/-- Other declarations have nothing to do with the objects of nodes. -/
theorem Tells.concat {d' : Draft} (h : d.Tells before ds) (hx : x.2.node? = none)
    (hnodes : d'.nodes = d.nodes) (hconflicts :
      d'.conflicts.filter (fun c => isInUi c.field) = d.conflicts.filter fun c => isInUi c.field) :
    d'.Tells before (ds ++ [x]) := by
  have hui : x.2.ui? = none := by
    obtain ⟨layer, _ | p | p⟩ := x
    · rfl
    · cases hx
    · rfl
  refine ⟨fun id field hfield => ?_, ?_⟩
  · rw [hnodes, Declared.uis_concat, if_neg (Declared.element_ne_node hx id)]
    exact h.origins id field hfield
  · rw [hconflicts, h.conflicts, Declared.uiConflicts_concat,
      Declared.uiClashes_of_none before ds hui, List.append_nil]

theorem Tells.setEntry (h : d.Tells before ds) (layer : String) (id : NodeId) :
    (d.setEntry before layer id).Tells before (ds ++ [(layer, .entry id)]) := by
  refine h.concat rfl rfl ?_
  unfold Draft.setEntry
  rw [List.filter_append]
  refine List.append_right_eq_self.2 ?_
  cases d.entry with
  | none => rfl
  | some e =>
    have hfield : isInUi "entry" = false := rfl
    dsimp only
    split <;> simp [hfield]

theorem Tells.patchEdge (h : d.Tells before ds) (layer : String) (p : EdgePatch) :
    (d.patchEdge before layer p).Tells before (ds ++ [(layer, .edge p)]) := by
  unfold Draft.patchEdge
  split
  · exact h.concat rfl rfl rfl
  · exact h.concat rfl rfl (Log.settings_agreesOnUi _ _ p.arePlain_settings _).conflicts

theorem Tells.patchNode (h : d.Tells before ds) (hd : d.Tracks ds) (layer : String)
    (p : NodePatch) :
    (d.patchNode before layer p).Tells before (ds ++ [(layer, .node p)]) := by
  have huis (id : NodeId) : Declared.uis (ds ++ [(layer, .node p)]) (.node id) =
      if p.id = id then if p.remove then [] else ds.uis (.node p.id) ++ (p.ui.map (layer, ·)).toList
      else ds.uis (.node id) := by
    rw [Declared.uis_concat]
    refine if_ctx_congr (iff_of_eq (Element.node.injEq ..)) (fun hid => ?_) fun _ => rfl
    rw [hid]
    rfl
  unfold Draft.patchNode
  split
  · rename_i hp
    refine ⟨fun id field hfield => ?_, ?_⟩
    · rw [Dict.get?_erase, huis, if_pos hp]
      split
      · rfl
      · exact h.origins id field hfield
    · have hnone : ds.uiClashes before (layer, .node p) = [] := if_pos hp
      rw [Declared.uiConflicts_concat, hnone, List.append_nil]
      exact h.conflicts
  · rename_i hp
    have horigins : ((d.nodes.get? p.id).getD ⟨{ id := p.id }, []⟩).origins =
        (d.nodes.get? p.id).elim [] Held.origins := by
      cases d.nodes.get? p.id <;> rfl
    have hlog := (horigins ▸ h.log p.id).settings (hd.nodes.ui p.id) (before ++ p.id) layer p
    refine ⟨fun id field hfield => ?_, ?_⟩
    · rw [Dict.get?_insert, huis, if_neg hp]
      split
      · exact hlog.origins field hfield
      · exact h.origins id field hfield
    · have hclashes : ds.uiClashes before (layer, .node p) = p.ui.elim [] fun ui =>
        Write.conflicts (before ++ p.id)
          (Write.ofUis (ds.uis (.node p.id))) (Write.ofUi (ds.uis (.node p.id)) (layer, ui)) :=
        if_neg hp
      rw [Declared.uiConflicts_concat, hclashes]
      exact hlog.conflicts

theorem Tells.declare (h : d.Tells before ds) (hd : d.Tracks ds) (x : String × Declaration) :
    (d.declare before x).Tells before (ds ++ [x]) := by
  obtain ⟨layer, id | p | p⟩ := x
  · exact h.setEntry layer id
  · exact h.patchNode hd layer p
  · exact h.patchEdge layer p

/-- A draft tells of the objects in all its declarations. -/
theorem ofDeclarations_tells (before : String) (ds : Declared) :
    (ofDeclarations before ds).Tells before ds := by
  induction ds using List.reverseRecOn with
  | nil => exact ⟨fun _ _ _ => rfl, rfl⟩
  | append_singleton ds x ih =>
    rw [ofDeclarations, List.foldl_append]
    exact ih.declare (ofDeclarations_tracks before ds) x

end Draft

/-- **Conflicts on `ui` objects are exact.**  Those that a merge reports are those that arise from
the writes of the layers, scope after scope and step after step. -/
theorem Layer.merge_uiConflicts {layers : List Layer} {m : Merged} (h : merge layers = .ok m) :
    ∃ paths, AreScopes layers paths ∧ m.conflicts.filter (fun c => isInUi c.field) =
      paths.flatMap fun path => (declarationsAt layers path).uiConflicts
        (Overlay.prefixFrom "" path) := by
  obtain ⟨paths, hpaths, hconflicts⟩ := merge_scopes h
  refine ⟨paths, hpaths, ?_⟩
  rw [hconflicts, List.filter_flatMap]
  exact List.flatMap_congr fun path _ => (Draft.ofDeclarations_tells _ _).conflicts

/-! ### Overridden values -/

namespace Write

variable {us : List (String × Dict Json)} {u : String × Dict Json} {front back ws : List Write}
    {w l : Write}
  {place : List String} {element : String} {c : Conflict}

/-- A conflict says of a write that it overrides what an earlier one has put in its place. -/
structure Overrides (w : Write) (earlier : List Write) (c : Conflict) : Prop where
  field : c.field = Write.field w.place
  winner : c.winner = w.layer
  won : c.won = w.value
  lost : w.old = some c.lost
  /-- The loser is found by name. -/
  loser : ∃ n, nearest? w.place earlier = some n ∧ c.loser = n.layer
  /-- The value comes from the last write around the place, and so from the loser if this is the
  innermost one. -/
  source : ∃ l, last? w.place earlier = some l ∧ l.Puts w.place c.lost ∧
    (l.IsInnermost w.place earlier → c.loser = l.layer)

/-- Where there is a write around a place, there is one by name. -/
theorem exists_nearest? (hlast : last? place ws = some l) : ∃ n, nearest? place ws = some n := by
  obtain ⟨front, back, rfl, hl, -⟩ := last?_eq_some_iff.1 hlast
  refine Option.ne_none_iff_exists'.1 fun hnone => ?_
  have hname := List.findSome?_eq_none_iff.1 hnone _ (field_mem_heads hl)
  rw [lastNamed?, List.getLast?_eq_none_iff, List.filter_eq_nil_iff] at hname
  exact hname l (by simp) (decide_eq_true rfl)

/-- A conflict that arises from a write of a `ui` object. -/
theorem overrides_of_conflict? (hus : ∀ u ∈ us, (Json.object u.2).IsSorted)
    (hu : (Json.object u.2).IsSorted) (hws : ofUi us u = front ++ w :: back)
    (hc : w.conflict? element (ofUis us ++ front) = some c) :
    c.element = element ∧ c.winner = u.1 ∧ (Json.mergeUis us).bind (Json.at? · w.place) =
      some c.lost ∧
      w.Overrides (ofUis us ++ front) c := by
  have hw : w ∈ ofUi us u := by simp [hws]
  obtain ⟨hlayer, _, rfl, hold⟩ := Json.exists_of_mem_writes hw
  obtain ⟨old, hlost, hc⟩ := Option.bind_eq_some_iff.1 hc
  split_ifs at hc
  cases hc
  obtain ⟨l, hl, hputs⟩ := exists_last_puts hus (hold.symm.trans hlost)
  -- what the same layer has written before lies elsewhere
  have hapart : (ofUi us u).Pairwise fun w w' => ¬ w.place <+: w'.place := Json.writes_apart hu
  rw [hws] at hapart
  have hfront (w' : Write) (hw' : w' ∈ front) :=
    (List.pairwise_append.1 hapart).2.2 w' hw' w List.mem_cons_self
  have hlast : last? w.place (ofUis us ++ front) = some l := by
    rw [last?_append, last?_eq_none hfront, Option.none_or, hl]
  obtain ⟨n, hn⟩ := exists_nearest? hlast
  refine ⟨rfl, hlayer, hold.symm.trans hlost, rfl, rfl, rfl, hlost, ⟨n, hn, by rw [hn]; rfl⟩, l,
    hlast, hputs, fun hinnermost => ?_⟩
  rw [nearest?_eq_last? hlast hinnermost]
  rfl

end Write

theorem LayerGraph.Fits.within {g g' : LayerGraph} (hg : g.Fits) {path : List String}
    (h : g' ∈ g.within path) :
    g'.Fits := by
  induction path generalizing g with
  | nil => exact List.mem_singleton.1 h ▸ hg
  | cons name path ih =>
    obtain ⟨s, hs, hg'⟩ := List.mem_flatMap.1 h
    obtain ⟨-, -, -, below⟩ := hg
    exact ih (below s (List.mem_filter.1 hs).1) hg'

namespace Layer

variable {layers : List Layer} {m : Merged} {path : List String}

/-- The `ui` objects of layers are sorted. -/
theorem isSorted_of_mem_declarationsAt (hlayers : ∀ l ∈ layers, l.Fits) {d : String × Declaration}
    (hd : d ∈ declarationsAt layers path) : ∀ ui ∈ d.2.ui?, (Json.object ui).IsSorted := by
  intro ui hui
  obtain ⟨l, hl, hd⟩ := List.mem_flatMap.1 hd
  obtain ⟨g, hg, hd⟩ := List.mem_flatMap.1 hd
  obtain ⟨x, hx, rfl⟩ := List.mem_map.1 hd
  rw [← inOrder_eq_byTier] at hl
  obtain ⟨nodes, -, -, -⟩ := (hlayers l ((List.mergeSort_perm _ _).mem_iff.1 hl)).within hg
  cases x with
  | entry id => cases hui
  | edge p => cases hui
  | node p =>
    have hp : p ∈ g.nodes := by
      simpa [LayerGraph.declarations] using hx
    exact (nodes p hp).ui ui hui

/-- **Who is named in a conflict on a `ui` object.**  Each arises where a layer that sets the object
writes over a value that earlier layers have left there.  The last write around the place has put it
there.  The conflict names the layer of the nearest write by name, which is the same wherever that
last write is the innermost one. -/
theorem merge_overrides (hlayers : ∀ l ∈ layers, l.Fits) (h : merge layers = .ok m) {c : Conflict}
    (hc : c ∈ m.conflicts) (hui : isInUi c.field = true) :
    ∃ path past x later, declarationsAt layers path = past ++ (c.winner, x) :: later ∧
      c.element = x.element.name (Overlay.prefixFrom "" path) ∧
      ∃ ui front w back, x.ui? = some ui ∧
        Write.ofUi (Declared.uis past x.element) (c.winner, ui) = front ++ w :: back ∧
        (Json.mergeUis (Declared.uis past x.element)).bind (Json.at? · w.place) = some c.lost ∧
        w.Overrides (Write.ofUis (Declared.uis past x.element) ++ front) c := by
  obtain ⟨paths, -, hconflicts⟩ := merge_uiConflicts h
  have hmem : c ∈ m.conflicts.filter fun c => isInUi c.field := List.mem_filter.2 ⟨hc, hui⟩
  rw [hconflicts] at hmem
  obtain ⟨path, -, hmem⟩ := List.mem_flatMap.1 hmem
  obtain ⟨past, ⟨layer, x⟩, later, hds, hclash⟩ := mem_flatMapAfter.1 hmem
  rw [List.nil_append, Declared.uiClashes] at hclash
  split_ifs at hclash
  · cases hclash
  cases hx : x.ui? with
  | none =>
    rw [hx] at hclash
    cases hclash
  | some ui =>
    rw [hx] at hclash
    obtain ⟨front, w, back, hws, hwrite⟩ := mem_flatMapAfter.1 hclash
    have hsorted : ∀ d ∈ declarationsAt layers path, ∀ ui ∈ d.2.ui?, (Json.object ui).IsSorted :=
      fun d hd => isSorted_of_mem_declarationsAt hlayers hd
    rw [hds] at hsorted
    have hpast := Declared.isSorted_of_mem_uis (e := x.element) fun d hd =>
      hsorted d (List.mem_append_left _ hd)
    obtain ⟨helement, rfl, hlost, hover⟩ := Write.overrides_of_conflict? hpast
      (hsorted _ (List.mem_append_right _ List.mem_cons_self) ui hx) hws
        (Option.mem_toList.1 hwrite)
    exact ⟨path, past, x, later, hds, helement, ui, front, w, back, hx, hws, hlost, hover⟩

end Layer

/-! ### A style that is replaced -/

namespace Samples

/-- A layer that sets the style of a question. -/
def painted (label : String) (style : Json) : Layer where
  tier := .tenant
  label := some label
  graph := { nodes := [{ id := "ask", ui := some [("style", style)] }] }

/-- A color is set and changed; then the style is replaced as a whole, twice, and the new color is
changed. -/
def repainting : List Layer := [
  { tier := .global
    id := some "palette"
    graph := {
      nodes := [
        { id := "ask", kind := some .question, key := some "topic", prompt := some "Yes?" },
        { id := "end", kind := some .terminal }]
      edges := [{ source := "ask", target := "end" }] } },
  painted "first" (.object [("color", .string "blue")]),
  painted "second" (.object [("color", .string "red")]),
  painted "third" (.string "plain"),
  painted "fourth" (.object [("color", .string "grey")]),
  painted "fifth" (.object [("color", .string "green")])]

/-- The flow that the layers make together. -/
def repaintedFlow : Flow where
  id := "palette"
  version := 1
  entry := some "ask"
  nodes := [{ Node.question "ask" "topic" "Yes?" with
    ui := some [("style", .object [("color", .string "green")])] }, .terminal "end"]
  edges := [.always "ask" "end"]

/-- The second layer changes the color of the first one. -/
def firstRepainting : Conflict :=
  ⟨"ask", "ui.style.color", "first", .string "blue", "second", .string "red"⟩

/-- The last layer changes the color of the fourth one, and the second one is named. -/
def lastRepainting : Conflict :=
  ⟨"ask", "ui.style.color", "second", .string "grey", "fifth", .string "green"⟩

/-- What the layers disagree on. -/
def repaintingConflicts : List Conflict := [
  firstRepainting,
  ⟨"ask", "ui.style", "first", .object [("color", .string "red")], "third", .string "plain"⟩,
  ⟨"ask", "ui.style", "third", .string "plain", "fourth", .object [("color", .string "grey")]⟩,
  lastRepainting]

theorem merge_repainting : Layer.merge repainting = .ok ⟨repaintedFlow, repaintingConflicts⟩ := by
  cbv

theorem painted_fits (label : String) {style : Json}
    (h : (Json.object [("style", style)]).IsSorted) :
    (painted label style).Fits :=
  .mk (List.forall_mem_singleton.2 ⟨nofun, fun _ hui => Option.some.inj hui ▸ h⟩) nofun .nil nofun

theorem repainting_fits : ∀ l ∈ repainting, l.Fits := by
  refine List.forall_mem_cons.2 ⟨.mk ?_ ?_ .nil nofun, ?_⟩
  · exact List.forall_mem_cons.2
      ⟨patch_fits rfl rfl, List.forall_mem_singleton.2 (patch_fits rfl rfl)⟩
  · exact List.forall_mem_singleton.2 nofun
  · simp only [List.forall_mem_cons, List.not_mem_nil, false_implies, implies_true, and_true]
    exact ⟨painted_fits _ rfl, painted_fits _ rfl, painted_fits _ rfl, painted_fits _ rfl,
      painted_fits _ rfl⟩

theorem firstRepainting_overrides :
    (∀ l ∈ repainting, l.Fits) ∧ Layer.merge repainting = .ok ⟨repaintedFlow, repaintingConflicts⟩ ∧
      firstRepainting ∈ repaintingConflicts ∧ isInUi firstRepainting.field = true ∧
      ∃ path past x later, Layer.declarationsAt repainting path = past ++
        (firstRepainting.winner, x) :: later ∧
        firstRepainting.element = x.element.name (Overlay.prefixFrom "" path) ∧
        ∃ ui front w back, x.ui? = some ui ∧
          Write.ofUi (Declared.uis past x.element) (firstRepainting.winner, ui) =
            front ++ w :: back ∧
          (Json.mergeUis (Declared.uis past x.element)).bind (Json.at? · w.place) =
            some firstRepainting.lost ∧
          w.Overrides (Write.ofUis (Declared.uis past x.element) ++ front) firstRepainting := by
  have hmem : firstRepainting ∈ repaintingConflicts := List.mem_cons_self
  exact ⟨repainting_fits, merge_repainting, hmem, rfl,
    Layer.merge_overrides repainting_fits merge_repainting hmem rfl⟩

/-- The last conflict names the second layer, though the fourth one has set the color that is
lost. -/
theorem repainting_misnames :
    Layer.merge repainting = .ok ⟨repaintedFlow, repaintingConflicts⟩ ∧
      lastRepainting ∈ repaintingConflicts ∧
      ∃ past x ui w l, Layer.declarationsAt repainting [] = past ++ [(lastRepainting.winner, x)] ∧
        x.ui? = some ui ∧
        Write.ofUi (Declared.uis past x.element) (lastRepainting.winner, ui) = [w] ∧
        lastRepainting.field = Write.field w.place ∧
        Write.last? w.place (Write.ofUis (Declared.uis past x.element)) = some l ∧
        l.Puts w.place lastRepainting.lost ∧
        l.layer = "fourth" ∧ lastRepainting.loser = "second" := by
  let grey : Json := .object [("color", .string "grey")]
  let green : Json := .object [("color", .string "green")]
  refine ⟨merge_repainting, by simp [repaintingConflicts],
    (Layer.declarationsAt repainting []).dropLast,
    .node { id := "ask", ui := some [("style", green)] }, [("style", green)],
    ⟨"fifth", ["style", "color"], some (.string "grey"), .string "green"⟩,
      ⟨"fourth", ["style"], some (.string "plain"), grey⟩, rfl, rfl, ?_, rfl, ?_, ?_, rfl, rfl⟩
  · cbv
  · cbv
  · exact ⟨["color"], .string "grey", rfl, rfl, .inl rfl⟩

end Samples

end Parley
