import Parley.Json.Reader
import Parley.Proofs.Checked
import Parley.Proofs.Collections

/-!
# Values restored from what was written

A record is written as members and read field by field.  It restores its value if each field reads
the member under its name, or makes up for one that was left out.

* `Document.toJson_ofJson`: a value read as it was written is sorted;
* `Reader.list_ofJson`, `Reader.dict_ofJson` and the like: values of one kind;
* `Record.Gives`: values from which a record reads one of its own, put together by `Gives.seq`;
* `Record.Restores`: members as they are written, from which a record reads a value;
* `Record.Restores.reader`, `Record.Restores.tagged`: documents of such members.
-/

namespace Parley

namespace Json

/-! ### Values -/

/-- Every object in the value is sorted by key. -/
def IsSorted (j : Json) : Prop := j.sorted = j

/-- An integer of 64 bits. -/
def IsInt64 (i : Int) : Prop := -2 ^ 63 ≤ i ∧ i < 2 ^ 63

namespace Document

theorem ofItems_eq_map (items : List Json) : ofItems items = items.map ofJson := by
  induction items with
  | nil => rfl
  | cons j r ih => rw [ofItems, ih, List.map_cons]

theorem ofMembers_eq_map (members : List (String × Json)) :
    ofMembers members = members.map fun m => (m.1, ofJson m.2) := by
  induction members with
  | nil => rfl
  | cons m r ih =>
    obtain ⟨k, j⟩ := m
    rw [ofMembers, ih, List.map_cons]

/-- A member nests less deep than its object. -/
theorem depth_lt_of_mem {members : List (String × Json)} {m : String × Json} (h : m ∈ members) :
    (ofJson m.2).depth < (ofJson (.object members)).depth := by
  show _ < depthMembers (ofMembers members) + 1
  rw [Nat.lt_succ_iff]
  induction members with
  | nil => cases h
  | cons m' r ih =>
    obtain ⟨k, j⟩ := m'
    rw [ofMembers, depthMembers]
    rcases List.mem_cons.1 h with rfl | h
    · exact Nat.le_max_left _ _
    · exact (ih h).trans (Nat.le_max_right _ _)

/-- An entry of a dictionary that is written only when it is not empty nests less deep than the
object that holds the dictionary. -/
theorem depth_lt_of_mem_dict {α : Type} {name : String} {f : α → Json} {d : Dict α} {e : String × α}
    (he : e ∈ d) {members : List (String × Json)}
    (hmembers : (if d.isEmpty then [] else [(name, .object (d.mapValues f))]) ⊆ members) :
    (ofJson (f e.2)).depth < (ofJson (.object members)).depth := by
  have hmem : (e.1, f e.2) ∈ d.mapValues f := List.mem_map.2 ⟨e, he, rfl⟩
  have hwritten : (name, .object (d.mapValues f)) ∈
      (if d.isEmpty then [] else [(name, Json.object (d.mapValues f))]) := by
    cases d with
    | nil => cases he
    | cons e' r => exact List.mem_singleton_self _
  exact (depth_lt_of_mem hmem).trans (depth_lt_of_mem (hmembers hwritten))

mutual

/-- **A value that is read as it was written is the value with its objects sorted.** -/
theorem toJson_ofJson : ∀ j : Json, (ofJson j).toJson = .ok j.sorted
  | .null | .bool _ | .number _ | .string _ => rfl
  | .array items => by
      rw [ofJson, toJson, toItems_ofItems items, sorted]
      rfl
  | .object members => by
      rw [ofJson, toJson, toMembers_ofMembers members, sorted]
      rfl

theorem toItems_ofItems : ∀ items : List Json, toItems (ofItems items) = .ok (sortedItems items)
  | [] => rfl
  | j :: r => by
      rw [ofItems, toItems, toJson_ofJson j, toItems_ofItems r, sortedItems]
      rfl

theorem toMembers_ofMembers :
    ∀ members : List (String × Json), toMembers (ofMembers members) = .ok (sortedMembers members)
  | [] => rfl
  | (k, j) :: r => by
      rw [ofMembers, toMembers, toJson_ofJson j, toMembers_ofMembers r, sortedMembers]
      rfl

end

end Document

namespace Reader

variable {α β : Type} {r : Reader α}

theorem json_ofJson {j : Json} (h : j.IsSorted) : json.ofJson j = .ok j := by
  rw [ofJson, json, Document.toJson_ofJson, h]

theorem jsonObject_ofJson {members : Dict Json} (h : (Json.object members).IsSorted) :
    jsonObject.ofJson (.object members) = .ok members := by
  have hread := Document.toJson_ofJson (.object members)
  rw [show (Json.object members).sorted = _ from h, Document.ofJson] at hread
  simp only [ofJson, Document.ofJson, jsonObject, hread]

theorem intBetween_ofJson {lo hi i : Int} (h : lo ≤ i ∧ i ≤ hi) :
    (intBetween lo hi).ofJson (.int i) = .ok i :=
  if_pos h

theorem int64_ofJson {i : Int} (h : IsInt64 i) : int64.ofJson (.int i) = .ok i :=
  intBetween_ofJson ⟨h.1, Int.le_sub_one_of_lt h.2⟩

theorem natBits_ofJson {bits n : Nat} (h : n < 2 ^ bits) :
    (natBits bits).ofJson (.nat n) = .ok n := by
  have hfits : (0 : Int) ≤ n ∧ (n : Int) ≤ Nat.pow 2 bits - 1 := by
    have hpow : Nat.pow 2 bits = 2 ^ bits := rfl
    omega
  have hread := intBetween_ofJson hfits
  unfold ofJson at hread
  show ((intBetween 0 (Nat.pow 2 bits - 1)) (Document.ofJson (.int n))).map Int.toNat = _
  rw [hread]
  rfl

theorem uint32_ofJson (w : UInt32) : uint32.ofJson (.nat w.toNat) = .ok w := by
  have hread := natBits_ofJson w.toNat_lt
  unfold ofJson at hread
  rw [ofJson, uint32, hread, Except.map, UInt32.ofNat_toNat]

theorem float_ofJson {x : Binary64} (h : x.isFinite = true) : float.ofJson (.float x) = .ok x := by
  rw [Json.float, if_pos h]
  rfl

theorem single_ofJson {x : Binary64} (h : x.isFinite = true) (hsingle : x.toSingle = x) :
    single.ofJson (.float x) = .ok x := by
  have hread := float_ofJson h
  unfold ofJson at hread
  rw [ofJson, single, hread, Except.map, hsingle]

theorem choice_ofJson {parse : String → Option α} {s : String} {a : α} (h : parse s = some a) :
    (choice parse).ofJson (.string s) = .ok a := by
  simp only [ofJson, Document.ofJson, choice, h, Option.elim_some]

theorem option_ofJson {j : Json} (hj : j ≠ .null) {a : α} (h : r.ofJson j = .ok a) :
    r.option.ofJson j = .ok (some a) := by
  unfold ofJson at h ⊢
  have hnull : Document.ofJson j ≠ .null := by
    cases j with
    | null => exact absurd rfl hj
    | _ => exact nofun
  unfold option
  split
  · rename_i heq
    exact absurd heq hnull
  · rw [h]
    rfl

theorem list_map_ofJson {f : β → Json} {g : β → α} {bs : List β}
    (h : ∀ b ∈ bs, r.ofJson (f b) = .ok (g b)) :
    (list r).ofJson (.array (bs.map f)) = .ok (bs.map g) := by
  have hitems : items r (Document.ofItems (bs.map f)) = .ok (bs.map g) := by
    rw [Document.ofItems_eq_map, List.map_map, items, mapM_eq_ok, List.forall₂_map_left_iff,
      List.forall₂_map_right_iff]
    exact List.forall₂_same.2 h
  simp only [ofJson, Document.ofJson, list, hitems]
  rfl

theorem list_ofJson {f : α → Json} {as : List α} (h : ∀ a ∈ as, r.ofJson (f a) = .ok a) :
    (list r).ofJson (.array (as.map f)) = .ok as := by
  have hread := list_map_ofJson (g := id) h
  rwa [List.map_id] at hread

theorem texts_ofJson (xs : List String) : (list text).ofJson (.strings xs) = .ok xs :=
  list_ofJson fun _ _ => rfl

theorem dict_map_ofJson {f : β → Json} {g : β → α} {d : Dict β} (hd : d.Ordered)
    (h : ∀ e ∈ d, r.ofJson (f e.2) = .ok (g e.2)) :
    (dict r).ofJson (.object (d.mapValues f)) = .ok (d.mapValues g) := by
  have hentries : (Document.ofMembers (d.mapValues f)).mapM (fun e => (r e.2).map (e.1, ·)) =
      .ok (d.mapValues g) := by
    rw [Document.ofMembers_eq_map, Dict.mapValues, List.map_map, mapM_eq_ok,
      List.forall₂_map_left_iff, Dict.mapValues, List.forall₂_map_right_iff]
    exact List.forall₂_same.2 fun e he => map_eq_ok.2 ⟨g e.2, h e he, rfl⟩
  have hordered : (d.mapValues g).Ordered := List.pairwise_map.2 hd
  rw [ofJson, Document.ofJson, dict]
  exact bind_eq_ok.2 ⟨_, hentries, congrArg Except.ok hordered.ofList_eq⟩

theorem dict_ofJson {f : α → Json} {d : Dict α} (hd : d.Ordered)
    (h : ∀ e ∈ d, r.ofJson (f e.2) = .ok e.2) :
    (dict r).ofJson (.object (d.mapValues f)) = .ok d := by
  have hself : d.mapValues id = d := List.map_id d
  have hread := dict_map_ofJson (g := id) hd h
  rwa [hself] at hread

end Reader

/-! ### Members -/

/-- The members of an object. -/
def members : Json → List (String × Json)
  | .object ms => ms
  | _ => []

/-- What is written for a list, if anything. -/
def textsIfAny (xs : List String) : Option Json := if xs.isEmpty then none else some (.strings xs)

theorem textsIfAny_eq_none {xs : List String} : textsIfAny xs = none ↔ xs = [] := by
  cases xs <;> simp [textsIfAny]

@[simp] theorem get?_memberIfSome {α : Type} (name key : String) (f : α → Json) (o : Option α) :
    Dict.get? (memberIfSome name f o) key = if name = key then o.map f else none := by
  cases o <;> simp [memberIfSome, Dict.get?]

@[simp] theorem get?_memberIfAny (name key : String) (xs : List String) :
    Dict.get? (memberIfAny name xs) key = if name = key then textsIfAny xs else none := by
  cases xs <;> simp [memberIfAny, textsIfAny, Dict.get?]

@[simp] theorem get?_memberIfTrue (name key : String) (b : Bool) :
    Dict.get? (memberIfTrue name b) key =
      if name = key ∧ b = true then some (.bool true) else none := by
  cases b <;> simp [memberIfTrue, Dict.get?]

/-! ### Records -/

/-- The members of an object are found by their names, whatever documents the values become. -/
theorem Fields.find?_map (f : Json → Document) (members : List (String × Json)) (positional : Bool)
    (name : String) :
    (Fields.find? ⟨members.map fun m => (m.1, f m.2), positional⟩ name).map Prod.snd =
      (Dict.get? members name).map f := by
  suffices ∀ i, (findMember name i (members.map fun m => (m.1, f m.2))).map Prod.snd =
      (Dict.get? members name).map f from this 0
  induction members with
  | nil => exact fun i => rfl
  | cons m r ih =>
    obtain ⟨k, j⟩ := m
    intro i
    rw [List.map_cons, findMember, Dict.get?]
    split
    · rfl
    · exact ih _

/-- The members of a written object are found by their names. -/
theorem find?_ofMembers (members : List (String × Json)) (positional : Bool) (name : String) :
    (Fields.find? ⟨Document.ofMembers members, positional⟩ name).map Prod.snd =
      (Dict.get? members name).map Document.ofJson := by
  rw [Document.ofMembers_eq_map, Fields.find?_map]

namespace Record

variable {α β : Type} {r : Record α} {ms ms' : List (String × Json)} {a : α}

/-- The record reads a value wherever its fields find the values that go by these names. -/
def Gives (r : Record α) (find : String → Option Json) (a : α) : Prop :=
  ∀ fs : Fields, fs.positional = false →
    (∀ name ∈ r.names, (fs.find? name).map Prod.snd = (find name).map Document.ofJson) →
      r.read fs = .ok a

namespace Gives

variable {find find' : String → Option Json}

theorem congr (h : r.Gives find a) (hfind : ∀ name ∈ r.names, find' name = find name) :
    r.Gives find' a :=
  fun fs hobject hfs => h fs hobject fun name hname =>
    (hfs name hname).trans (by rw [hfind name hname])

/-- A field whose value is there. -/
theorem written {name : String} {reader : Reader α} {missing : Bool → Option α} {j : Json}
    (hfind : find name = some j) (h : reader.ofJson j = .ok a) :
    (field name reader missing).Gives find a := by
  intro fs _ hfs
  have hname := hfs name (List.mem_singleton_self name)
  rw [hfind, Option.map_some] at hname
  obtain ⟨⟨i, d⟩, hget, rfl⟩ := Option.map_eq_some_iff.1 hname
  simp only [field, hget]
  exact mapError_eq_ok.2 h

/-- A field without a value. -/
theorem omitted {name : String} {reader : Reader α} {missing : Bool → Option α}
    (hfind : find name = none) (h : missing false = some a) :
    (field name reader missing).Gives find a := by
  intro fs hobject hfs
  have hname := hfs name (List.mem_singleton_self name)
  rw [hfind, Option.map_none, Option.map_eq_none_iff] at hname
  simp only [field, hname, hobject, h]

/-- One record after another. -/
theorem seq {f : Record (α → β)} {g : α → β} (hf : f.Gives find g) (hr : r.Gives find a) :
    (f <*> r).Gives find (g a) := by
  intro fs hobject hfs
  have hleft := hf fs hobject fun name hname => hfs name (List.mem_append_left _ hname)
  have hright := hr fs hobject fun name hname => hfs name (List.mem_append_right _ hname)
  show Located.both (f.read fs) (r.read fs) = _
  rw [hleft, hright]
  rfl

theorem map (g : α → β) (hr : r.Gives find a) : (g <$> r).Gives find (g a) :=
  seq (f := Pure.pure g) (fun _ _ _ => rfl) hr

theorem optional {name : String} {reader : Reader α} (f : α → Json) {o : Option α}
    (hfind : find name = o.map f) (hf : ∀ a ∈ o, f a ≠ .null)
    (h : ∀ a ∈ o, reader.ofJson (f a) = .ok a) :
    (Record.optional name reader).Gives find o := by
  unfold Record.optional defaulted
  cases o with
  | none => exact omitted hfind rfl
  | some a => exact written hfind (Reader.option_ofJson (hf a rfl) (h a rfl))

theorem text {name : String} {o : Option String} (hfind : find name = o.map .string) :
    (Record.optional name .text).Gives find o :=
  optional .string hfind (fun _ _ => nofun) fun _ _ => rfl

theorem texts {name : String} {xs : List String} (hfind : find name = textsIfAny xs) :
    (defaulted name (.list .text) []).Gives find xs := by
  cases xs with
  | nil => exact omitted hfind rfl
  | cons x xs => exact written hfind (Reader.texts_ofJson _)

theorem flag {name : String} {b : Bool}
    (hfind : find name = if b then some (.bool true) else none) :
    (defaulted name .bool false).Gives find b := by
  cases b with
  | false => exact omitted hfind rfl
  | true => exact written hfind rfl

/-- A field whose value may stand in place of another one. -/
theorem getD {name : String} {reader : Reader α} {missing : Bool → Option α} (f : α → Json)
    {upper : Option α} {lower : Option Json} (hfind : find name = (upper.map f).or lower)
    (h : ∀ a ∈ upper, reader.ofJson (f a) = .ok a)
    (hlower : find name = lower → (field name reader missing).Gives find a) :
    (field name reader missing).Gives find (upper.getD a) := by
  cases upper with
  | none => exact hlower hfind
  | some a => exact written hfind (h a rfl)

end Gives

theorem layoutFault_ofMembers {names : List String} {i : Nat} {seen : List String}
    (hnames : ∀ k ∈ ms.map Prod.fst, k ∈ names ∧ k ∉ seen) (hms : (ms.map Prod.fst).Nodup) :
    layoutFault names i seen (Document.ofMembers ms) = none := by
  induction ms generalizing i seen with
  | nil => rfl
  | cons m ms ih =>
    obtain ⟨k, j⟩ := m
    rw [List.map_cons, List.forall_mem_cons] at hnames
    obtain ⟨⟨hk, hnew⟩, hrest⟩ := hnames
    obtain ⟨hfirst, hms⟩ := List.nodup_cons.1 hms
    rw [Document.ofMembers, layoutFault, if_pos hk, if_neg hnew]
    refine ih (fun k' hk' => ⟨(hrest k' hk').1, fun hmem => ?_⟩) hms
    rcases List.mem_cons.1 hmem with rfl | hmem
    · exact hfirst hk'
    · exact (hrest k' hk').2 hmem

/-- A record is read from members that it knows, in whatever order they are. -/
theorem Gives.ofMembers (h : r.Gives (Dict.get? ms) a) (hms : (ms.map Prod.fst).Nodup)
    (hnames : ms.map Prod.fst ⊆ r.names) : r.ofMembers (Document.ofMembers ms) none = .ok a := by
  have hlayout : layoutFault r.names 0 [] (Document.ofMembers ms) = none :=
    layoutFault_ofMembers (fun k hk => ⟨hnames hk, List.not_mem_nil⟩) hms
  have hread := h ⟨Document.ofMembers ms, false⟩ rfl fun name _ => find?_ofMembers ms false name
  simp only [Record.ofMembers, hlayout, hread]
  rfl

theorem Gives.reader (h : r.Gives (Dict.get? ms) a) (hms : (ms.map Prod.fst).Nodup)
    (hnames : ms.map Prod.fst ⊆ r.names) : r.reader.ofJson (.object ms) = .ok a :=
  h.ofMembers hms hnames

/-- The record reads a value wherever its fields find these members. -/
structure Restores (r : Record α) (ms : List (String × Json)) (a : α) : Prop where
  names : (ms.map Prod.fst).Sublist r.names
  read (hnames : r.names.Nodup) : r.Gives (Dict.get? ms) a

namespace Restores

/-- A member that was written. -/
theorem written {name : String} {reader : Reader α} {missing : Bool → Option α} {j : Json}
    (h : reader.ofJson j = .ok a) : (field name reader missing).Restores [(name, j)] a where
  names := List.Sublist.refl _
  read _ := .written (if_pos rfl) h

/-- A member that was left out. -/
theorem omitted {name : String} {reader : Reader α} {missing : Bool → Option α}
    (h : missing false = some a) :
    (field name reader missing).Restores [] a where
  names := List.nil_sublist _
  read _ := .omitted rfl h

theorem pure (a : α) : (Pure.pure a : Record α).Restores [] a where
  names := List.nil_sublist _
  read _ _ _ _ := rfl

/-- One record after another, if no name is read by both. -/
theorem seq {f : Record (α → β)} {g : α → β} (hf : f.Restores ms g) (hr : r.Restores ms' a) :
    (f <*> r).Restores (ms ++ ms') (g a) where
  names := by
    rw [List.map_append]
    exact hf.names.append hr.names
  read hnames := by
    obtain ⟨hfnames, hrnames, hdisjoint⟩ := List.nodup_append.1 hnames
    refine ((hf.read hfnames).congr fun name hname => ?_).seq
      ((hr.read hrnames).congr fun name hname => ?_)
    · rw [Dict.get?_append, Dict.get?_eq_none fun h => hdisjoint _ hname _ (hr.names.subset h) rfl,
        Option.or_none]
    · rw [Dict.get?_append, Dict.get?_eq_none fun h => hdisjoint _ (hf.names.subset h) _ hname rfl,
        Option.none_or]

theorem map (g : α → β) (hr : r.Restores ms a) : (g <$> r).Restores ms (g a) := (pure g).seq hr

/-! #### Fields as they are written -/

section Fields

variable (name : String) {reader : Reader α} {j : Json}

theorem required (h : reader.ofJson j = .ok a) :
    (Record.required name reader).Restores [(name, j)] a := written h

theorem defaulted {value : α} (h : reader.ofJson j = .ok a) :
    (Record.defaulted name reader value).Restores [(name, j)] a := written h

theorem text (s : String) : (Record.required name .text).Restores [(name, .string s)] s :=
  written rfl

/-- A value that is written only when there is one. -/
theorem ifSome (f : α → Json) {o : Option α} (hf : ∀ a ∈ o, f a ≠ .null)
    (h : ∀ a ∈ o, reader.ofJson (f a) = .ok a) :
    (optional name reader).Restores (memberIfSome name f o) o := by
  unfold optional Record.defaulted
  cases o with
  | none => exact omitted rfl
  | some a => exact written (Reader.option_ofJson (hf a rfl) (h a rfl))

/-- A value that is written as `null` when there is none. -/
theorem ofOption (f : α → Json) {o : Option α} (hf : ∀ a ∈ o, f a ≠ .null)
    (h : ∀ a ∈ o, reader.ofJson (f a) = .ok a) :
    (optional name reader).Restores [(name, Json.ofOption f o)] o := by
  unfold optional Record.defaulted
  cases o with
  | none => exact written rfl
  | some a => exact written (Reader.option_ofJson (hf a rfl) (h a rfl))

/-- A text that is written only when there is one. -/
theorem textIfSome (o : Option String) :
    (optional name .text).Restores (memberIfSome name .string o) o :=
  ifSome name .string (fun _ _ => nofun) fun _ _ => rfl

theorem intIfSome {o : Option Int} (h : ∀ i ∈ o, IsInt64 i) :
    (optional name .int64).Restores (memberIfSome name .int o) o :=
  ifSome name .int (fun _ _ => nofun) fun i hi => Reader.int64_ofJson (h i hi)

theorem objectIfSome {o : Option (Dict Json)} (h : ∀ members ∈ o, (Json.object members).IsSorted) :
    (optional name .jsonObject).Restores (memberIfSome name .object o) o :=
  ifSome name .object (fun _ _ => nofun) fun members hmem =>
    Reader.jsonObject_ofJson (h members hmem)

/-- A list that is written only when it is not empty. -/
theorem ifAny (xs : List String) :
    (Record.defaulted name (.list .text) []).Restores (memberIfAny name xs) xs := by
  cases xs with
  | nil => exact omitted rfl
  | cons x xs => exact written (Reader.texts_ofJson _)

/-- A dictionary that is written only when it is not empty, and whose values change on the way. -/
theorem dictMapIfAny {f : β → Json} {g : β → α} {d : Dict β} (hd : d.Ordered)
    (h : ∀ e ∈ d, reader.ofJson (f e.2) = .ok (g e.2)) :
    (Record.defaulted name (.dict reader) []).Restores
      (if d.isEmpty then [] else [(name, .object (d.mapValues f))]) (d.mapValues g) := by
  cases d with
  | nil => exact omitted rfl
  | cons e r => exact written (Reader.dict_map_ofJson hd h)

/-- A dictionary that is written only when it is not empty. -/
theorem dictIfAny {f : α → Json} {d : Dict α} (hd : d.Ordered)
    (h : ∀ e ∈ d, reader.ofJson (f e.2) = .ok e.2) :
    (Record.defaulted name (.dict reader) []).Restores
      (if d.isEmpty then [] else [(name, .object (d.mapValues f))]) d := by
  cases d with
  | nil => exact omitted rfl
  | cons e r => exact written (Reader.dict_ofJson hd h)

/-- A flag that is written only when it is set. -/
theorem ifTrue (b : Bool) :
    (Record.defaulted name .bool false).Restores (memberIfTrue name b) b := by
  cases b with
  | false => exact omitted rfl
  | true => exact written rfl

end Fields

/-! #### Documents -/

theorem ofMembers (h : r.Restores ms a) (hnames : r.names.Nodup) :
    r.ofMembers (Document.ofMembers ms) none = .ok a :=
  (h.read hnames).ofMembers (h.names.nodup hnames) h.names.subset

theorem reader (h : r.Restores ms a) (hnames : r.names.Nodup) :
    r.reader.ofJson (.object ms) = .ok a :=
  h.ofMembers hnames

theorem objectReader (h : r.Restores ms a) (hnames : r.names.Nodup) :
    r.objectReader.ofJson (.object ms) = .ok a :=
  h.ofMembers hnames

/-- A record that is chosen by a name written in front of it. -/
theorem tagged {tag s : String} {variant : String → Option (Record α)}
    (hvariant : variant s = some r) (h : r.Restores ms a) (hnames : (tag :: r.names).Nodup) :
    (Record.tagged tag variant).ofJson (.object ((tag, .string s) :: ms)) = .ok a := by
  obtain ⟨htag, hnames⟩ := List.nodup_cons.1 hnames
  have hother : ∀ m ∈ Document.ofMembers ms, m.1 ≠ tag := by
    rw [Document.ofMembers_eq_map]
    rintro m hm rfl
    obtain ⟨m', hm', rfl⟩ := List.mem_map.1 hm
    exact htag (h.names.subset (List.mem_map.2 ⟨m', hm', rfl⟩))
  have htagged : ((tag, Document.string (some s)) :: Document.ofMembers ms).filter
      (fun m => m.1 = tag) =
      [(tag, .string (some s))] := by
    rw [List.filter_cons_of_pos (by simp), List.filter_eq_nil_iff.2 (by simpa using hother)]
  have hrest : ((tag, Document.string (some s)) :: Document.ofMembers ms).filter
      (fun m => m.1 ≠ tag) =
      Document.ofMembers ms := by
    rw [List.filter_cons_of_neg (by simp), List.filter_eq_self.2 (by simpa using hother)]
  unfold Reader.ofJson
  simp only [Document.ofJson, Document.ofMembers, Record.tagged, htagged, Reader.text, bind,
    Except.bind, hvariant, hrest, h.ofMembers hnames]

end Restores

end Record

end Json

end Parley
