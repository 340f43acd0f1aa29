import Parley.Proofs.Layer.Declared
import Parley.Proofs.Number.Rounding

/-!
# The plain settings of a declaration

Besides `ui` objects and the lists that only grow, all that a declaration sets are plain values:
texts, flags, whole numbers and lists of texts.  They are known by the names of their fields.

* `Plain`, `Plain.toJson`, `Plain.isBlank`: plain values;
* `Plain.same_toJson`, `Plain.isVoid_toJson`: documents of plain values are compared as the values
  are;
* `NodePatch.plain?`, `EdgePatch.plain?`, `Declaration.plain?`: what is set under the name of a
  field;
* `NodePatch.erase_settings`, `NodePatch.get?_settings`, `NodePatch.plain?_overlay` and the like for
  edges.
-/

namespace Parley

/-! ### Plain values -/

/-- A value without parts that are merged. -/
inductive Plain
  | text (s : String)
  | flag (b : Bool)
  | number (i : Int)
  | texts (l : List String)
  deriving DecidableEq

namespace Plain

def toJson : Plain → Json
  | .text s => .string s
  | .flag b => .bool b
  | .number i => .int i
  | .texts l => .strings l

/-- Whether a value is false, zero or empty. -/
def isBlank : Plain → Bool
  | .text s => s = ""
  | .flag b => !b
  | .number i => i = 0
  | .texts l => l.isEmpty

theorem sameItems_strings (l l' : List String) :
    Json.sameItems (l.map .string) (l'.map .string) = decide (l = l') := by
  induction l generalizing l' with
  | nil => cases l' <;> rfl
  | cons s l ih =>
    cases l' with
    | nil => rfl
    | cons s' l' =>
      show (s == s' && Json.sameItems (l.map .string) (l'.map .string)) = _
      rw [ih]
      by_cases hs : s = s' <;> simp [hs]

/-- Documents of plain values are the same if the values are. -/
theorem same_toJson (a b : Plain) : a.toJson.same b.toJson = decide (a = b) := by
  rw [Bool.eq_iff_iff]
  cases a <;> cases b <;>
    simp [toJson, Json.same, Json.int, Json.strings, Number.same, sameItems_strings]

end Plain

/-! ### Zero -/

namespace Binary64

theorem rank_ofNat_zero : (ofNat 0).rank = some 0 := by
  rw [ofNat, Nat.zero_mul, round_of_value (value_zero false), rank, value_zero]
  rfl

theorem ofInt_zero : ofInt 0 = ofNat 0 := by
  rw [ofInt, ofNat, decide_eq_false (Int.lt_irrefl 0), Int.natAbs_zero]

theorem rank_ofMagnitude_ne_zero (neg : Bool) {n : Nat} (hn : 0 < n) (hmax : n ≤ infinityBits) :
    ∃ r, (ofMagnitude neg n).rank = some r ∧ r ≠ 0 := by
  unfold rank
  rw [value_ofMagnitude neg hmax]
  by_cases hlt : n < infinityBits
  · have hunits := unitsOfBits_pos hn
    rw [if_pos hlt]
    refine ⟨_, rfl, ?_⟩
    split <;> omega
  · rw [if_neg hlt]
    refine ⟨_, rfl, ?_⟩
    generalize 2098 = k
    have hpow : 0 < Nat.pow 2 k := Nat.pow_pos Nat.two_pos
    split <;> omega

/-- Among the doubles nearest to whole numbers, only that of zero is zero. -/
theorem eq_ofInt_zero (i : Int) : (ofInt i).eq (ofNat 0) = decide (i = 0) := by
  unfold eq
  rw [rank_ofNat_zero]
  by_cases hi : i = 0
  · subst hi
    rw [ofInt_zero, rank_ofNat_zero]
  · obtain ⟨r, hr, hne⟩ :=
      rank_ofMagnitude_ne_zero (i < 0) (roundBits_pos (Int.natAbs_pos.2 hi)) (Nat.min_le_right _ _)
    rw [ofInt, round, hr]
    simp [hi, hne]

end Binary64

/-- A plain value is blank if its document is void. -/
theorem Plain.isVoid_toJson (a : Plain) : a.toJson.isVoid = a.isBlank := by
  cases a with
  | text s => rfl
  | flag b => rfl
  | number i => exact Binary64.eq_ofInt_zero i
  | texts l => exact List.isEmpty_map

/-! ### Fields -/

/-- The names of the fields that hold plain values, sorted. -/
def plainFields : List String :=
  ["entry", "from", "guard", "key", "on_invalid", "paths", "priority", "prompt", "reentrant",
    "subgraph", "to", "type", "validator", "when"]

/-- What a patch of a node sets a field to. -/
def NodePatch.plain? (p : NodePatch) : String → Option Plain
  | "guard" => p.guard.map .text
  | "key" => p.key.map .text
  | "paths" => p.paths.map .texts
  | "priority" => p.priority.map .number
  | "prompt" => p.prompt.map .text
  | "reentrant" => p.reentrant.map .flag
  | "subgraph" => p.subgraph.map .text
  | "type" => p.kind.map fun k => .text k.name
  | "validator" => p.validator.map .text
  | "when" => p.when.map .text
  | _ => none

/-- What a patch of an edge sets a field to. -/
def EdgePatch.plain? (p : EdgePatch) : String → Option Plain
  | "from" => some (.text p.source)
  | "guard" => p.guard.map .text
  | "on_invalid" => p.onInvalid.map .flag
  | "priority" => p.priority.map .number
  | "reentrant" => p.reentrant.map .flag
  | "to" => some (.text p.target)
  | _ => none

/-- What a declaration sets a field to; one that takes its element away sets nothing. -/
def Declaration.plain? (d : Declaration) (field : String) : Option Plain :=
  match d with
  | .entry id => if field = "entry" then some (.text id) else none
  | .node p => if p.remove then none else p.plain? field
  | .edge p => if p.remove then none else p.plain? field

/-- The members for plain fields, some of which may not be set. -/
def plainMembers (value? : String → Option Plain) : Dict Json :=
  plainFields.filterMap fun field => (value? field).map fun value => (field, value.toJson)

theorem map_fst_plainMembers (value? : String → Option Plain) :
    (plainMembers value?).map Prod.fst = plainFields.filter fun field => (value? field).isSome := by
  unfold plainMembers
  induction plainFields with
  | nil => rfl
  | cons field fields ih =>
    rw [List.filterMap_cons, List.filter_cons]
    cases hvalue : value? field <;> simp [ih]

theorem exists_of_mem_plainMembers {value? : String → Option Plain} {m : String × Json}
    (hm : m ∈ plainMembers value?) :
    ∃ field ∈ plainFields, ∃ value, value? field = some value ∧ m = (field, value.toJson) := by
  obtain ⟨field, hfield, hm⟩ := List.mem_filterMap.1 hm
  obtain ⟨value, hvalue, rfl⟩ := Option.map_eq_some_iff.1 hm
  exact ⟨field, hfield, value, hvalue, rfl⟩

theorem mem_plainMembers {value? : String → Option Plain} {m : String × Json}
    (hm : m ∈ plainMembers value?) :
    m.1 ∈ plainFields ∧ ∃ value : Plain, m.2 = value.toJson := by
  obtain ⟨field, hfield, value, -, rfl⟩ := exists_of_mem_plainMembers hm
  exact ⟨hfield, value, rfl⟩

theorem filterMap_cons_toList {α β : Type} (f : α → Option β) (a : α) (l : List α) :
    (a :: l).filterMap f = (f a).toList ++ l.filterMap f := by
  rw [List.filterMap_cons]
  cases f a <;> rfl

theorem memberIfSome_eq {α : Type} (name : String) (f : α → Json) (o : Option α) :
    Json.memberIfSome name f o = (o.map fun a => (name, f a)).toList := by
  cases o <;> rfl

/-- The plain members of the settings of a node patch. -/
theorem NodePatch.erase_settings (p : NodePatch) :
    Dict.erase p.settings "ui" = plainMembers p.plain? := by
  have herase {α : Type} (name : String) (f : α → Json) (o : Option α) (hname : name ≠ "ui") :
      (Json.memberIfSome name f o).filter (fun m => m.1 ≠ "ui") = Json.memberIfSome name f o := by
    cases o <;> simp [Json.memberIfSome, hname]
  have hui : (Json.memberIfSome "ui" Json.object p.ui).filter (fun m => m.1 ≠ "ui") = [] := by
    cases p.ui <;> simp [Json.memberIfSome]
  unfold Dict.erase settings plainMembers plainFields
  simp only [List.filter_append, hui]
  simp (disch := decide) only [herase]
  simp only [filterMap_cons_toList, memberIfSome_eq, plain?, Option.map_map, List.filterMap_nil,
    List.append_nil, List.append_assoc]
  rfl

/-- The settings of an edge patch are all plain. -/
theorem EdgePatch.settings_eq (p : EdgePatch) : p.settings = plainMembers p.plain? := by
  unfold settings plainMembers plainFields
  simp only [filterMap_cons_toList, memberIfSome_eq, plain?, Option.map_map, Option.map_some,
    Option.toList_some, List.filterMap_nil, List.append_nil, List.append_assoc]
  rfl

/-- A field of a patch over another. -/
theorem NodePatch.plain?_overlay (lower upper : NodePatch) {field : String}
    (hfield : field ∈ plainFields) :
    (lower.overlay upper).plain? field = (upper.plain? field).or (lower.plain? field) := by
  revert field
  simp only [plainFields, List.forall_mem_cons]
  simp [plain?, overlay, Option.map_or]

theorem EdgePatch.plain?_overlay (lower upper : EdgePatch) {field : String}
    (hfield : field ∈ plainFields) :
    (lower.overlay upper).plain? field = (upper.plain? field).or (lower.plain? field) := by
  revert field
  simp only [plainFields, List.forall_mem_cons]
  simp [plain?, overlay, Option.map_or]

/-- A plain member is found under the name of its field. -/
theorem get?_plainMembers (value? : String → Option Plain) {field : String}
    (hfield : field ∈ plainFields) :
    (plainMembers value?).get? field = (value? field).map Plain.toJson := by
  have hfind (fields : List String) :
      Dict.get? (fields.filterMap fun field => (value? field).map fun value =>
        (field, value.toJson)) field =
        if field ∈ fields then (value? field).map Plain.toJson else none := by
    induction fields with
    | nil => rfl
    | cons name fields ih =>
      rw [List.filterMap_cons]
      by_cases hname : name = field
      · subst hname
        cases hvalue : value? name with
        | some value => simp [Dict.get?]
        | none => simp [ih, hvalue]
      · cases hvalue : value? name with
        | some value => simp [Dict.get?, hname, Ne.symm hname, ih]
        | none => simp [ih, Ne.symm hname]
  rw [plainMembers, hfind, if_pos hfield]

theorem ui_ne_of_plain {field : String} (hfield : field ∈ plainFields) : "ui" ≠ field := by
  rintro rfl
  revert hfield
  decide

theorem EdgePatch.erase_settings (p : EdgePatch) :
    Dict.erase p.settings "ui" = plainMembers p.plain? := by
  rw [p.settings_eq]
  refine List.filter_eq_self.2 fun m hm => decide_eq_true ?_
  exact (ui_ne_of_plain (mem_plainMembers hm).1).symm

theorem NodePatch.get?_settings (p : NodePatch) {field : String} (hfield : field ∈ plainFields) :
    Dict.get? p.settings field = (p.plain? field).map Plain.toJson := by
  rw [← get?_plainMembers p.plain? hfield, ← p.erase_settings, Dict.get?_erase,
    if_neg (ui_ne_of_plain hfield)]

theorem EdgePatch.get?_settings (p : EdgePatch) {field : String} (hfield : field ∈ plainFields) :
    Dict.get? p.settings field = (p.plain? field).map Plain.toJson := by
  rw [p.settings_eq, get?_plainMembers p.plain? hfield]

/-- A patch that sets nothing. -/
theorem NodePatch.plain?_blank (id : NodeId) (field : String) :
    NodePatch.plain? { id := id } field = none := by
  unfold plain?
  split <;> rfl

end Parley
