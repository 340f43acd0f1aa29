import Parley.Proofs.Json.Restored
import Parley.Proofs.Layer.Disputes
import Parley.Proofs.Layer.Precedence
import Parley.Proofs.Text.Splitting

/-!
# Writes to `ui` objects

A `ui` object that is laid over another one is a series of writes: where two objects meet, one for
each member, and everywhere else the upper value is written in place of the lower one.  The value at
a place is what the last write around the place has put there, perhaps grown since.

* `Json.at?`: the value at a place;
* `Write`, `Json.writes`: the writes by which a value is laid over another one;
* `Write.last?`, `Write.Puts`, `Json.puts_or_below`: the write that has put a value in its place;
* `Write.nearest?`: the write to the nearest field by name;
* `Write.IsInnermost`, `Write.nearest?_eq_last?`: when the two are the same;
* `Log.field_eq_foldl`, `Log.Tells.foldl`: what a log makes of writes, and whom it names.
-/

namespace Parley

/-! ### Values within values -/

namespace Json

/-- The member of a value to which keys lead. -/
def at? : Json → List String → Option Json
  | j, [] => some j
  | j, k :: place => (j.get? k).bind (at? · place)

/-- A value has stayed what it was, or it was an object and is one still. -/
def GrowsTo (j j' : Json) : Prop :=
  j = j' ∨ ∃ members members', j = .object members ∧ j' = .object members'

theorem GrowsTo.trans {j j' j'' : Json} (h : j.GrowsTo j') (h' : j'.GrowsTo j'') :
    j.GrowsTo j'' := by
  rcases h with rfl | ⟨members, members', rfl, rfl⟩
  · exact h'
  · rcases h' with rfl | ⟨_, members'', -, rfl⟩ <;> exact .inr ⟨_, _, rfl, rfl⟩

/-- What holds of a value if it holds of its members holds of all values. -/
theorem induction_members {P : Json → Prop}
    (step : ∀ j, (∀ members, j = .object members → ∀ m ∈ members, P m.2) → P j) (j : Json) : P j :=
  step j fun members hj m hm => by
    have hlt : sizeOf m.2 < sizeOf j := by
      have hmem := List.sizeOf_lt_of_mem hm
      obtain ⟨k, value⟩ := m
      subst hj
      simp only [object.sizeOf_spec, Prod.mk.sizeOf_spec] at hmem ⊢
      omega
    exact induction_members step m.2
termination_by sizeOf j

theorem sortedMembers_eq_map (members : List (String × Json)) :
    sortedMembers members = members.map fun m => (m.1, m.2.sorted) := by
  induction members with
  | nil => rfl
  | cons m r ih => rw [sortedMembers, ih, List.map_cons]

/-- The keys of an object that is sorted increase, and its members are sorted. -/
theorem IsSorted.of_object {members : Dict Json} (h : (Json.object members).IsSorted) :
    Dict.Ordered members ∧ ∀ m ∈ members, m.2.IsSorted := by
  have hlist : Dict.ofList (members.map fun m => (m.1, m.2.sorted)) = members := by
    rw [← sortedMembers_eq_map]
    unfold IsSorted at h
    rw [sorted] at h
    exact object.inj h
  have hordered : Dict.Ordered members := by
    rw [← hlist]
    exact Dict.ordered_ofList _
  refine ⟨hordered, fun m hm => ?_⟩
  -- sorting the members of the members keeps the keys, so it keeps the order
  have hmap : Dict.Ordered (members.map fun m => (m.1, m.2.sorted)) :=
    List.Pairwise.map _ (fun _ _ hlt => hlt) hordered
  rw [hmap.ofList_eq] at hlist
  have hsame : members.map (fun m => (m.1, m.2.sorted)) = members.map id := by
    rw [hlist, List.map_id]
  exact congrArg Prod.snd (List.map_eq_map_iff.1 hsame m hm)

theorem IsSorted.object {members : Dict Json} (hkeys : Dict.Ordered members)
    (h : ∀ m ∈ members, m.2.IsSorted) :
    (Json.object members).IsSorted := by
  have hsame : members.map (fun m => (m.1, m.2.sorted)) = members :=
    (List.map_congr_left fun m hm => congrArg (Prod.mk m.1) (h m hm)).trans (List.map_id members)
  rw [IsSorted, sorted, sortedMembers_eq_map, hsame, hkeys.ofList_eq]

/-- A value is laid over another one member by member. -/
def Meet (previous : Option Json) (value : Json) : Prop :=
  ∃ lower upper, previous = some (.object lower) ∧ value = .object upper

/-- A value over another one, if there is one. -/
def laidOver (previous : Option Json) (value : Json) : Json := previous.elim value (overlay · value)

theorem laidOver_of_not_meet {previous : Option Json} {value : Json} (h : ¬ Meet previous value) :
    laidOver previous value = value := by
  cases previous with
  | none => rfl
  | some old => cases old <;> cases value <;> first | rfl | exact absurd ⟨_, _, rfl, rfl⟩ h

end Json

/-! ### Writes -/

/-- A layer sets the `ui` object of a node, or the member of it to which keys lead, to a value in
place of an old one. -/
structure Write where
  layer : String
  place : List String
  old : Option Json
  value : Json

/-- The name of the field at a place. -/
def Write.field (place : List String) : String := place.foldl (fun name k => name ++ "." ++ k) "ui"

namespace Json

mutual

/-- The writes of a layer by which a value is laid over another one at a place. -/
def writes (layer : String) (place : List String) (previous : Option Json) : Json → List Write
  | .object upper =>
      match previous with
      | some (.object lower) => writesMembers layer place lower upper
      | previous => [⟨layer, place, previous, .object upper⟩]
  | value => [⟨layer, place, previous, value⟩]

def writesMembers (layer : String) (place : List String) (lower : Dict Json) :
    List (String × Json) → List Write
  | [] => []
  | (k, value) :: r => writes layer (place ++ [k]) (lower.get? k) value ++
      writesMembers layer place lower r

end

variable {layer element : String} {place : List String} {previous : Option Json} {value : Json}

theorem writesMembers_eq (layer : String) (place : List String) (lower : Dict Json)
    (upper : List (String × Json)) :
    writesMembers layer place lower upper =
      upper.flatMap fun m => writes layer (place ++ [m.1]) (lower.get? m.1) m.2 := by
  induction upper with
  | nil => rfl
  | cons m r ih => rw [writesMembers, ih, List.flatMap_cons]

theorem writes_objects (layer : String) (place : List String) (lower upper : Dict Json) :
    writes layer place (some (.object lower)) (.object upper) =
      upper.flatMap fun m => writes layer (place ++ [m.1]) (lower.get? m.1) m.2 := by
  rw [writes, writesMembers_eq]

theorem writes_of_not_meet (layer : String) (place : List String) (h : ¬ Meet previous value) :
    writes layer place previous value = [⟨layer, place, previous, value⟩] := by
  cases value with
  | object upper =>
    unfold writes
    split
    · exact absurd ⟨_, _, rfl, rfl⟩ h
    · rfl
  | null | bool _ | number _ | string _ | array _ =>
    unfold writes
    rfl

/-- What is written lies at the place or inside it, and replaces what lies there. -/
theorem exists_of_mem_writes {w : Write} (hw : w ∈ writes layer place previous value) :
    w.layer = layer ∧ ∃ rest, w.place = place ++ rest ∧ w.old = previous.bind (at? · rest) := by
  induction value using induction_members generalizing place previous with
  | step value ih =>
    by_cases hmeet : Meet previous value
    · obtain ⟨lower, upper, rfl, rfl⟩ := hmeet
      rw [writes_objects] at hw
      obtain ⟨m, hm, hw⟩ := List.mem_flatMap.1 hw
      obtain ⟨hlayer, rest, hplace, hold⟩ := ih upper rfl m hm hw
      exact ⟨hlayer, m.1 :: rest, by rw [hplace, List.append_assoc, List.singleton_append], hold⟩
    · rw [writes_of_not_meet layer place hmeet] at hw
      cases List.mem_singleton.1 hw
      exact ⟨rfl, [], (List.append_nil _).symm, by cases previous <;> rfl⟩

/-- Members with different keys are written at places that are not inside each other. -/
theorem not_prefix_of_mem_writes {w : Write} {k k' : String} {rest : List String} (hk : k ≠ k')
    (hw : w ∈ writes layer (place ++ [k]) previous value) : ¬ w.place <+: place ++ k' :: rest := by
  obtain ⟨-, inner, hplace, -⟩ := exists_of_mem_writes hw
  rw [hplace, List.append_assoc, List.prefix_append_right_inj, List.singleton_append,
    List.cons_prefix_cons]
  exact fun h => hk h.1

/-- No value is written inside another one. -/
theorem writes_apart (hsorted : value.IsSorted) :
    (writes layer place previous value).Pairwise fun w w' => ¬ w.place <+: w'.place := by
  induction value using induction_members generalizing place previous with
  | step value ih =>
    by_cases hmeet : Meet previous value
    · obtain ⟨lower, upper, rfl, rfl⟩ := hmeet
      obtain ⟨hnames, hmembers⟩ := hsorted.of_object
      rw [writes_objects, List.pairwise_flatMap]
      refine ⟨fun m hm => ih upper rfl m hm (hmembers m hm),
        hnames.imp fun {m m'} hlt w hw w' hw' => ?_⟩
      obtain ⟨-, inner, hplace, -⟩ := exists_of_mem_writes hw'
      rw [hplace, List.append_assoc]
      exact not_prefix_of_mem_writes hlt.ne hw
    · rw [writes_of_not_meet layer place hmeet]
      exact List.pairwise_singleton _ _

end Json

namespace Write

variable {w : Write} {ws ws' : List Write} {place : List String}

/-- The last write at a place or around it. -/
def last? (place : List String) (ws : List Write) : Option Write :=
  (ws.filter fun w => w.place.isPrefixOf place).getLast?

/-- A write has put a value in its place: it lies there in what was written, and has only grown
since. -/
def Puts (w : Write) (place : List String) (value : Json) : Prop :=
  ∃ rest value', place = w.place ++ rest ∧ w.value.at? rest = some value' ∧ value'.GrowsTo value

theorem last?_append (place : List String) (ws ws' : List Write) :
    last? place (ws ++ ws') = (last? place ws').or (last? place ws) := by
  rw [last?, List.filter_append, List.getLast?_append]
  rfl

theorem last?_eq_none (h : ∀ w ∈ ws, ¬ w.place <+: place) : last? place ws = none := by
  rw [last?, List.filter_eq_nil_iff.2 fun w hw => by simpa using h w hw]
  rfl

end Write

namespace Json

variable {layer : String} {place : List String} {previous : Option Json} {value v : Json}

/-- A member of an object over another is its value over the lower one, if it has one. -/
theorem get?_laidOver {lower upper : Dict Json} (hupper : Dict.Ordered upper) (k : String) :
    (laidOver (some (.object lower)) (.object upper)).get? k =
      (Dict.get? upper k).elim (Dict.get? lower k) fun value =>
        some (laidOver (Dict.get? lower k) value) := by
  show Dict.get? (overlayMembers lower upper) k = _
  rw [get?_overlayMembers, hupper.filter_key]
  cases Dict.get? upper k <;> rfl

/-- Among the writes of members only those of a key are around a place below it. -/
theorem last?_members (layer : String) (place rest : List String) (lower : Dict Json)
    {upper : Dict Json} (hupper : Dict.Ordered upper) (k : String) :
    Write.last? (place ++ k :: rest)
      (upper.flatMap fun m => writes layer (place ++ [m.1]) (lower.get? m.1) m.2) =
      (Dict.get? upper k).bind fun value =>
        Write.last? (place ++ k :: rest) (writes layer (place ++ [k]) (lower.get? k) value) := by
  have hnone {members : Dict Json} (h : ∀ m ∈ members, m.1 ≠ k) : Write.last? (place ++ k :: rest)
      (members.flatMap fun m => writes layer (place ++ [m.1]) (lower.get? m.1) m.2) = none := by
    refine Write.last?_eq_none fun w hw => ?_
    obtain ⟨m, hm, hw⟩ := List.mem_flatMap.1 hw
    exact not_prefix_of_mem_writes (h m hm) hw
  cases h : Dict.get? upper k with
  | none => exact hnone fun m hm hk => Dict.mem_keys_iff.1 (List.mem_map.2 ⟨m, hm, hk⟩) h
  | some value =>
    obtain ⟨front, back, rfl, hfront, hback⟩ := hupper.exists_of_get? h
    rw [List.flatMap_append, List.flatMap_cons, Write.last?_append, Write.last?_append,
      hnone hfront, hnone hback, Option.or_none, Option.none_or, Option.bind_some]

/-- **A value in what is laid over another comes from the one write around it, or from below.** -/
theorem puts_or_below (layer : String) (place : List String) (hsorted : value.IsSorted)
    {rest : List String} (h : (laidOver previous value).at? rest = some v) :
    (∃ w, Write.last? (place ++ rest) (writes layer place previous value) = some w ∧
      w.Puts (place ++ rest) v) ∨
      Write.last? (place ++ rest) (writes layer place previous value) = none ∧
        ∃ lower v', previous = some lower ∧ lower.at? rest = some v' ∧ v'.GrowsTo v := by
  induction value using induction_members generalizing place previous rest with
  | step value ih =>
    by_cases hmeet : Meet previous value
    · obtain ⟨lower, upper, rfl, rfl⟩ := hmeet
      obtain ⟨hnames, hmembers⟩ := hsorted.of_object
      rw [writes_objects]
      cases rest with
      | nil =>
        cases h
        refine .inr ⟨Write.last?_eq_none fun w hw => ?_, _, .object lower, rfl, rfl,
          .inr ⟨_, _, rfl, rfl⟩⟩
        obtain ⟨m, hm, hw⟩ := List.mem_flatMap.1 hw
        obtain ⟨-, inner, hplace, -⟩ := exists_of_mem_writes hw
        intro hprefix
        have hlength := hprefix.length_le
        rw [hplace, List.append_nil] at hlength
        simp at hlength
      | cons k rest =>
        rw [at?, get?_laidOver hnames] at h
        rw [last?_members layer place rest lower hnames]
        cases hget : Dict.get? upper k with
        | none =>
          rw [hget] at h
          exact .inr ⟨rfl, _, v, rfl, h, .inl rfl⟩
        | some u =>
          rw [hget] at h
          have hm := Dict.mem_of_get? hget
          have hu := ih upper rfl _ hm (place ++ [k]) (hmembers _ hm) h
          rw [List.append_assoc, List.singleton_append] at hu
          refine hu.imp (fun hput => hput) ?_
          rintro ⟨hnone, l, v', hl, hv', hgrows⟩
          have hat : (object lower).at? (k :: rest) = some v' := by
            rw [at?, show (object lower).get? k = Dict.get? lower k from rfl, hl]; exact hv'
          exact ⟨hnone, _, v', rfl, hat, hgrows⟩
    · rw [laidOver_of_not_meet hmeet] at h
      rw [writes_of_not_meet layer place hmeet]
      exact .inl ⟨⟨layer, place, previous, value⟩, by simp [Write.last?], rest, v, rfl, h, .inl rfl⟩

end Json

/-! ### Fields by name -/

namespace Write

variable {w l : Write} {ws : List Write} {place inner : List String} {name : String}

theorem field_concat (place : List String) (k : String) :
    field (place ++ [k]) = field place ++ "." ++ k := by
  rw [field, List.foldl_concat, ← field]

theorem field_append (place rest : List String) :
    (field (place ++ rest)).toList = (field place).toList ++ rest.flatMap fun k =>
      '.' :: k.toList := by
  induction rest using List.reverseRecOn with
  | nil => simp
  | append_singleton rest k ih =>
    rw [← List.append_assoc, field_concat, String.toList_append, String.toList_append, ih,
      List.flatMap_append]
    simp

/-- The field around another one is found by name. -/
theorem field_mem_heads (h : inner <+: place) : field inner ∈ Text.heads '.' (field place) := by
  obtain ⟨rest, rfl⟩ := h
  rw [Text.mem_heads_iff, field_append]
  cases rest with
  | nil => exact .inl (by rw [List.append_nil])
  | cons k rest => exact .inr ⟨_, rfl⟩

theorem length_field_le (h : inner <+: place) :
    (field inner).toList.length ≤ (field place).toList.length := by
  obtain ⟨rest, rfl⟩ := h
  rw [field_append, List.length_append]
  exact Nat.le_add_right _ _

theorem isInUi_field (place : List String) : isInUi (field place) = true := by
  induction place using List.reverseRecOn with
  | nil => rfl
  | append_singleton place k ih =>
    rw [field_concat]
    exact isInUi_member ih k

/-- The last write to a field with a name. -/
def lastNamed? (name : String) (ws : List Write) : Option Write :=
  (ws.filter fun w => field w.place = name).getLast?

/-- The last write to the field at a place or else, by name, to the nearest field around it. -/
def nearest? (place : List String) (ws : List Write) : Option Write :=
  (Text.heads '.' (field place)).findSome? fun name => lastNamed? name ws

/-- Of the writes that are around a place by name, none is inside a given one, nor beside it. -/
def IsInnermost (l : Write) (place : List String) (ws : List Write) : Prop :=
  ∀ w ∈ ws, field w.place ∈ Text.heads '.' (field place) → w.place <+: l.place

theorem lastNamed?_concat (name : String) (ws : List Write) (w : Write) :
    lastNamed? name (ws ++ [w]) = if field w.place = name then some w else lastNamed? name ws := by
  unfold lastNamed?
  rw [List.filter_append, List.filter_singleton]
  by_cases hname : field w.place = name <;> simp [hname]

theorem last?_eq_some_iff :
    last? place ws = some l ↔ ∃ front back, ws = front ++ l :: back ∧ l.place <+: place ∧
      ∀ w ∈ back, ¬ w.place <+: place := by
  unfold last?
  rw [getLast?_filter_eq_some_iff]
  simp only [List.isPrefixOf_iff_prefix]

/-- **The nearest write by name is the last one around the place if this is the innermost one.** -/
theorem nearest?_eq_last? (hlast : last? place ws = some l) (hinnermost : l.IsInnermost place ws) :
    nearest? place ws = some l := by
  obtain ⟨front, back, hws, hl, hback⟩ := last?_eq_some_iff.1 hlast
  obtain ⟨longer, shorter, hheads⟩ := List.append_of_mem (field_mem_heads hl)
  have hlonger := (List.pairwise_append.1 (hheads ▸ Text.heads_shorter '.' (field place))).2.2
  have hname : lastNamed? (field l.place) ws = some l := by
    refine getLast?_filter_eq_some_iff.2
      ⟨front, back, hws, decide_eq_true rfl, fun w hw hfield => ?_⟩
    refine hback w hw ((hinnermost w (by simp [hws, hw]) ?_).trans hl)
    rw [of_decide_eq_true hfield]
    exact field_mem_heads hl
  refine List.findSome?_eq_some_iff.2 ⟨longer, _, shorter, hheads, hname, fun name hname => ?_⟩
  -- a write to a field with a longer name would be inside of this one
  refine List.getLast?_eq_none_iff.2 (List.filter_eq_nil_iff.2 fun w hw hfield => ?_)
  have hfield := of_decide_eq_true hfield
  have hinside := hinnermost w hw (by simp [hheads, hfield, hname])
  exact absurd (length_field_le hinside)
    (Nat.not_le.2 (hfield ▸ hlonger name hname _ List.mem_cons_self))

end Write

theorem isInUi_iff_mem_heads {field : String} :
    isInUi field = true ↔ "ui" ∈ Text.heads '.' field := by
  unfold isInUi
  simp only [Bool.or_eq_true, decide_eq_true_eq, List.isPrefixOf_iff_prefix, Text.mem_heads_iff]
  refine or_congr eq_comm (exists_congr fun r => ?_)
  rw [eq_comm]
  rfl

theorem isInUi_of_mem_heads {field head : String} (hfield : isInUi field = true)
    (hhead : head ∈ Text.heads '.' field) : isInUi head = true := by
  rcases Text.heads_total (isInUi_iff_mem_heads.1 hfield) hhead with h | h
  · exact isInUi_iff_mem_heads.2 h
  · rw [Text.heads_of_notMem (by decide), List.mem_singleton] at h
    rw [h]
    rfl

/-! ### Writes in a log -/

/-- The conflict that arises from a write, given those before it. -/
def Write.conflict? (element : String) (past : List Write) (w : Write) : Option Conflict :=
  Log.conflict? ⟨element, w.layer⟩ (field w.place) (((nearest? w.place past).map layer).getD "base")
    w.old w.value

/-- The conflicts that arise from writes, after others that have come before them. -/
def Write.conflicts (element : String) : List Write → List Write → List Conflict :=
  flatMapAfter fun past w => (w.conflict? element past).toList

namespace Log

/-- Note a write. -/
def take (element : String) (log : Log) (w : Write) : Log :=
  log.record ⟨element, w.layer⟩ (Write.field w.place) w.old w.value

/-- What a log has on `ui` objects: the layers of the last writes, and conflicts. -/
structure Tells (log : Log) (ws : List Write) (cs : List Conflict) : Prop where
  origins : ∀ field, isInUi field = true →
      Dict.get? log.origins field = (Write.lastNamed? field ws).map Write.layer
  conflicts : log.conflicts.filter (fun c => isInUi c.field) = cs

variable {log : Log} {ws : List Write} {cs : List Conflict}

/-- A log finds the layer of the nearest write by name. -/
theorem Tells.find? (h : log.Tells ws cs) (place : List String) :
    log.origins.find? (Write.field place) = (Write.nearest? place ws).map Write.layer := by
  rw [Origins.find?, Write.nearest?, List.map_findSome?]
  rw [← List.head?_filterMap, ← List.head?_filterMap]
  refine congrArg List.head? (List.filterMap_congr fun name hname => ?_)
  exact h.origins name (isInUi_of_mem_heads (Write.isInUi_field place) hname)

theorem Tells.take (h : log.Tells ws cs) (element : String) (w : Write) :
    (log.take element w).Tells (ws ++ [w]) (cs ++ (w.conflict? element ws).toList) := by
  rw [Log.take, record_eq, h.find?]
  refine ⟨fun field hfield => ?_, ?_⟩
  · rw [Dict.get?_insert, Write.lastNamed?_concat, h.origins field hfield]
    split <;> rfl
  · rw [List.filter_append, h.conflicts]
    refine congrArg (cs ++ ·) (List.filter_eq_self.2 fun c hc => ?_)
    rw [conflict?_field (Option.mem_toList.1 hc)]
    exact Write.isInUi_field w.place

theorem Tells.foldl (h : log.Tells ws cs) (element : String) (ws' : List Write) :
    (ws'.foldl (Log.take element) log).Tells (ws ++ ws')
      (cs ++ Write.conflicts element ws ws') := by
  induction ws' using List.reverseRecOn with
  | nil => simpa [Write.conflicts, flatMapAfter] using h
  | append_singleton ws' w ih =>
    rw [List.foldl_concat, Write.conflicts, flatMapAfter_concat, ← List.append_assoc,
      ← List.append_assoc]
    exact ih.take element w

theorem members_eq_foldl (site : Site) (name : String) (lower : Dict Json)
    (upper : List (String × Json)) (log : Log) :
    members site name lower upper log =
      upper.foldl (fun log m => field site (name ++ "." ++ m.1) (lower.get? m.1) m.2 log) log := by
  induction upper generalizing log with
  | nil => rfl
  | cons m upper ih => rw [members, ih, List.foldl_cons]

/-- A value that is not laid over another one member by member is recorded. -/
theorem field_of_not_meet (site : Site) (name : String) {previous : Option Json} {value : Json}
    (h : ¬ Json.Meet previous value) (log : Log) :
    field site name previous value log = record site name previous value log := by
  cases value with
  | object upper =>
    unfold field
    split
    · exact absurd ⟨_, _, rfl, rfl⟩ h
    · rfl
  | null | bool _ | number _ | string _ | array _ =>
    unfold field
    rfl

/-- To lay a value over another is to note its writes. -/
theorem field_eq_foldl (element layer : String) (place : List String) (previous : Option Json)
    (value : Json) (log : Log) : field ⟨element, layer⟩ (Write.field place) previous value log =
      (Json.writes layer place previous value).foldl (Log.take element) log := by
  induction value using Json.induction_members generalizing place previous log with
  | step value ih =>
    by_cases hmeet : Json.Meet previous value
    · obtain ⟨lower, upper, rfl, rfl⟩ := hmeet
      rw [Json.writes_objects, List.foldl_flatMap, field, members_eq_foldl]
      refine List.foldl_ext _ _ _ fun log m hm => ?_
      rw [← Write.field_concat]
      exact ih upper rfl m hm _ _ _
    · rw [Json.writes_of_not_meet layer place hmeet, field_of_not_meet _ _ hmeet]
      rfl

end Log

end Parley
