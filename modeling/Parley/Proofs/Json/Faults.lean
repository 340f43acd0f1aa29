import Parley.Proofs.Json.Members

/-!
# Documents that break off

No reader takes a document that breaks off for a whole one: wherever it does, be it in a member that
the reader does not know, the reader comes across it.

* `Document.fault?_array`, `Document.fault?_object`: whole documents;
* `Document.fault?_cut`: a document that is cut breaks off;
* `Reader.Heeds`, `Record.Heeds`: readers that take whole documents only, one lemma for each way to
  put them together.
-/

namespace Parley.Json

/-! ### Whole documents -/

namespace Document

theorem faultItems_eq_none {items : List Document} :
    faultItems items = none ↔ ∀ d ∈ items, d.fault? = none := by
  induction items with
  | nil => simp [faultItems]
  | cons d r ih => rw [faultItems, Option.or_eq_none_iff, ih, List.forall_mem_cons]

theorem faultMembers_eq_none {members : List (String × Document)} :
    faultMembers members = none ↔ ∀ m ∈ members, m.2.fault? = none := by
  induction members with
  | nil => simp [faultMembers]
  | cons m r ih =>
    obtain ⟨k, d⟩ := m
    rw [faultMembers, Option.or_eq_none_iff, ih, List.forall_mem_cons]

theorem fault?_array {items : List Document} {stop : Option Fault} :
    (array items stop).fault? = none ↔ (∀ d ∈ items, d.fault? = none) ∧ stop = none := by
  rw [fault?, Option.or_eq_none_iff, faultItems_eq_none]

theorem fault?_object {members : List (String × Document)} {stop : Option Fault} :
    (object members stop).fault? = none ↔ (∀ m ∈ members, m.2.fault? = none) ∧ stop = none := by
  rw [fault?, Option.or_eq_none_iff, faultMembers_eq_none]

/-- A container around a document that breaks off does so as well. -/
theorem fault?_closeAll {stack : List Frame} {d : Document} (h : d.fault? ≠ none) :
    (closeAll stack d).fault? ≠ none := by
  induction stack generalizing d with
  | nil => exact h
  | cons f stack ih =>
    cases f with
    | array items => exact ih fun hnone => h ((fault?_array.1 hnone).1 d (by simp))
    | object members key => exact ih fun hnone => h ((fault?_object.1 hnone).1 (key, d) (by simp))

theorem fault?_cut (stack : List Frame) (f : Fault) (p : Place) :
    (cut stack f p).fault? ≠ none := by
  have hbroken : (broken f).fault? ≠ none := nofun
  cases p with
  | value mayClose => exact fault?_closeAll hbroken
  | afterItem items => exact fault?_closeAll fun hnone => nomatch (fault?_array.1 hnone).2
  | firstKey => exact fault?_closeAll fun hnone => nomatch (fault?_object.1 hnone).2
  | nextKey members => exact fault?_closeAll fun hnone => nomatch (fault?_object.1 hnone).2
  | colon members key =>
    exact fault?_closeAll fun hnone => hbroken ((fault?_object.1 hnone).1 (key, broken f) (by simp))
  | afterMember members => exact fault?_closeAll fun hnone => nomatch (fault?_object.1 hnone).2

mutual

/-- A document that has a value is whole. -/
theorem fault?_of_toJson : ∀ {d : Document} {j : Json}, d.toJson = .ok j → d.fault? = none
  | .null, _, _ | .bool _, _, _ | .number _, _, _ | .string _, _, _ => rfl
  | .array items stop, _, h => by
      rw [toJson] at h
      obtain ⟨js, hitems, h⟩ := bind_eq_ok.1 h
      cases stop with
      | some f => cases h
      | none => exact fault?_array.2 ⟨faultItems_eq_none.1 (faultItems_of_toItems hitems), rfl⟩
  | .object members stop, _, h => by
      rw [toJson] at h
      obtain ⟨ms, hmembers, h⟩ := bind_eq_ok.1 h
      cases stop with
      | some f => cases h
      | none =>
        exact fault?_object.2 ⟨faultMembers_eq_none.1 (faultMembers_of_toMembers hmembers), rfl⟩
  | .broken f, _, h => nomatch h

theorem faultItems_of_toItems : ∀ {items : List Document} {js : List Json}, toItems items = .ok js →
    faultItems items = none
  | [], _, _ => rfl
  | d :: r, _, h => by
      rw [toItems] at h
      obtain ⟨j, hd, h⟩ := bind_eq_ok.1 h
      obtain ⟨js, hr, -⟩ := bind_eq_ok.1 h
      rw [faultItems, fault?_of_toJson hd, faultItems_of_toItems hr]
      rfl

theorem faultMembers_of_toMembers :
    ∀ {members : List (String × Document)} {ms : List (String × Json)}, toMembers members = .ok ms →
      faultMembers members = none
  | [], _, _ => rfl
  | (k, d) :: r, _, h => by
      rw [toMembers] at h
      obtain ⟨j, hd, h⟩ := bind_eq_ok.1 h
      obtain ⟨ms, hr, -⟩ := bind_eq_ok.1 h
      rw [faultMembers, fault?_of_toJson hd, faultMembers_of_toMembers hr]
      rfl

end

end Document

/-! ### Readers -/

section Readers

variable {α β : Type}

/-- Only whole documents are read. -/
def Reader.Heeds (r : Reader α) : Prop := ∀ d a, r d = .ok a → d.fault? = none

namespace Reader.Heeds

variable {r : Reader α}

/-- What is no container is whole, unless nothing could be read at all. -/
theorem of_scalar (hbroken : ∀ f a, r (.broken f) ≠ .ok a)
    (harray : ∀ items stop a, r (.array items stop) ≠ .ok a)
    (hobject : ∀ members stop a, r (.object members stop) ≠ .ok a) : r.Heeds := by
  intro d a h
  cases d with
  | broken f => exact absurd h (hbroken f a)
  | array items stop => exact absurd h (harray items stop a)
  | object members stop => exact absurd h (hobject members stop a)
  | _ => rfl

theorem text : Reader.text.Heeds :=
  of_scalar (fun _ _ => nofun) (fun _ _ _ => nofun) fun _ _ _ => nofun

theorem bool : Reader.bool.Heeds :=
  of_scalar (fun _ _ => nofun) (fun _ _ _ => nofun) fun _ _ _ => nofun

theorem intBetween (lo hi : Int) : (Reader.intBetween lo hi).Heeds :=
  of_scalar (fun _ _ => nofun) (fun _ _ _ => nofun) fun _ _ _ => nofun

theorem float : Reader.float.Heeds :=
  of_scalar (fun _ _ => nofun) (fun _ _ _ => nofun) fun _ _ _ => nofun

/-- A reader that makes something of what another one reads. -/
theorem bind {f : α → Except Fault β} (hr : r.Heeds) : Reader.Heeds fun d => r d >>= f := by
  intro d b h
  obtain ⟨a, ha, -⟩ := bind_eq_ok.1 h
  exact hr d a ha

theorem map {f : α → β} (hr : r.Heeds) : Reader.Heeds fun d => (r d).map f := by
  intro d b h
  obtain ⟨a, ha, -⟩ := map_eq_ok.1 h
  exact hr d a ha

theorem natBits (bits : Nat) : (Reader.natBits bits).Heeds := (intBetween _ _).map

theorem uint32 : Reader.uint32.Heeds := (natBits 32).map

theorem single : Reader.single.Heeds := float.map

theorem json : Reader.json.Heeds := fun _ _ => Document.fault?_of_toJson

theorem jsonObject : Reader.jsonObject.Heeds := by
  intro d a h
  unfold Reader.jsonObject at h
  split at h
  · split at h
    · rename_i hread
      exact Document.fault?_of_toJson hread
    · cases h
    · cases h
  · cases h

theorem option (hr : r.Heeds) : r.option.Heeds := by
  intro d a h
  unfold Reader.option at h
  split at h
  · rfl
  · exact hr.map d a h

theorem list (hr : r.Heeds) : (Reader.list r).Heeds := by
  intro d a h
  unfold Reader.list at h
  split at h
  · obtain ⟨xs, hitems, h⟩ := bind_eq_ok.1 h
    split at h
    · cases h
    · refine Document.fault?_array.2 ⟨fun d hd => ?_, rfl⟩
      obtain ⟨x, -, hx⟩ := exists_of_forall₂_right (mapM_eq_ok.1 hitems).flip hd
      exact hr d x hx
  · cases h

theorem dict (hr : r.Heeds) : (Reader.dict r).Heeds := by
  intro d a h
  unfold Reader.dict at h
  split at h
  · obtain ⟨entries, hentries, h⟩ := bind_eq_ok.1 h
    split at h
    · cases h
    · refine Document.fault?_object.2 ⟨fun m hm => ?_, rfl⟩
      obtain ⟨e, -, he⟩ := exists_of_forall₂_right (mapM_eq_ok.1 hentries).flip hm
      exact hr.map m.2 e he
  · cases h

theorem choice (parse : String → Option α) : (Reader.choice parse).Heeds := by
  intro d a h
  unfold Reader.choice at h
  split at h
  · rfl
  · split at h
    · cases h
    · split at h
      · exact Document.fault?_object.2 ⟨by simp [Document.fault?], rfl⟩
      all_goals cases h
  all_goals cases h

end Reader.Heeds

/-! ### Records -/

/-- Only whole members are read. -/
def Record.Heeds (r : Record α) : Prop :=
  ∀ fs a, r.read fs = .ok a → ∀ name ∈ r.names, ∀ m, fs.find? name = some m → m.2.fault? = none

namespace Record.Heeds

variable {r : Record α}

theorem pure (a : α) : (Pure.pure a : Record α).Heeds := fun _ _ _ _ hname => nomatch hname

theorem seq {f : Record (α → β)} (hf : f.Heeds) (hr : r.Heeds) : (f <*> r).Heeds := by
  intro fs b h name hname
  obtain ⟨g, a, hg, ha, -⟩ :=
    both_eq_ok.1 (show Located.both (f.read fs) (r.read fs) = .ok b from h)
  rcases List.mem_append.1 hname with hname | hname
  · exact hf fs g hg name hname
  · exact hr fs a ha name hname

theorem map (g : α → β) (hr : r.Heeds) : (g <$> r).Heeds := (pure g).seq hr

theorem field {name : String} {reader : Reader α} {missing : Bool → Option α} (h : reader.Heeds) :
    (Record.field name reader missing).Heeds := by
  intro fs a hread name' hname m hfind
  obtain rfl := List.mem_singleton.1 hname
  obtain ⟨i, d⟩ := m
  exact h d a (field_eq_ok hfind hread)

theorem required {name : String} {reader : Reader α} (h : reader.Heeds) :
    (Record.required name reader).Heeds :=
  field h

theorem defaulted {name : String} {reader : Reader α} {value : α} (h : reader.Heeds) :
    (Record.defaulted name reader value).Heeds := field h

theorem optional {name : String} {reader : Reader α} (h : reader.Heeds) :
    (Record.optional name reader).Heeds :=
  defaulted h.option

/-- Members in good order: those of other names are whole, and those of known names are all
found. -/
theorem of_layoutFault {names : List String} {members : List (String × Document)} {i j : Nat}
    {seen : List String} (h : layoutFault names i seen members = none) {m : String × Document}
    (hm : m ∈ members) :
    (m.1 ∉ names ∧ m.2.fault? = none) ∨
      (m.1 ∈ names ∧ m.1 ∉ seen ∧ ∃ k, findMember m.1 j members = some (k, m.2)) := by
  induction members generalizing i j seen with
  | nil => cases hm
  | cons m' members ih =>
    obtain ⟨k, d⟩ := m'
    unfold layoutFault at h
    by_cases hk : k ∈ names
    · rw [if_pos hk] at h
      split at h
      · cases h
      · rename_i hseen
        rcases List.mem_cons.1 hm with rfl | hm
        · exact .inr ⟨hk, hseen, j, if_pos rfl⟩
        · refine (ih (j := j + 1) h hm).imp_right fun ⟨hknown, hnew, hfind⟩ => ?_
          obtain ⟨hne, hnew⟩ := not_or.1 (mt List.mem_cons.2 hnew)
          exact ⟨hknown, hnew, by rwa [findMember, if_neg (Ne.symm hne)]⟩
    · rw [if_neg hk] at h
      split at h
      · cases h
      · rename_i hd
        rcases List.mem_cons.1 hm with rfl | hm
        · exact .inl ⟨hk, hd⟩
        · refine (ih (j := j + 1) h hm).imp_right fun ⟨hknown, hnew, hfind⟩ => ⟨hknown, hnew, ?_⟩
          rwa [findMember, if_neg fun (heq : k = m.1) => hk (heq ▸ hknown)]

theorem ofMembers (hr : r.Heeds) {members : List (String × Document)} {stop : Option Fault} {a : α}
    (h : r.ofMembers members stop = .ok a) : (∀ m ∈ members, m.2.fault? = none) ∧ stop = none := by
  obtain ⟨g, x, hlayout, hread, -⟩ := both_eq_ok.1 (mapError_eq_ok.1 h)
  obtain ⟨-, hlayout, -⟩ := map_eq_ok.1 hlayout
  split at hlayout
  · cases hlayout
  · rename_i hfault
    split at hlayout
    · cases hlayout
    · refine ⟨fun m hm => ?_, rfl⟩
      rcases of_layoutFault (j := 0) hfault hm with ⟨-, hm⟩ | ⟨hname, -, k, hfind⟩
      · exact hm
      · exact hr _ x hread m.1 hname (k, m.2) hfind

/-- With distinct names, each item that has one is found under it. -/
theorem exists_findMember_zip {names : List String} {items : List Document} (hnames : names.Nodup)
    (hlength : items.length ≤ names.length) {d : Document} (hd : d ∈ items) (j : Nat) :
    ∃ name ∈ names, ∃ k, findMember name j (names.zip items) = some (k, d) := by
  induction names generalizing items j with
  | nil =>
    rw [List.length_eq_zero_iff.1 (Nat.le_zero.1 hlength)] at hd
    cases hd
  | cons name names ih =>
    cases items with
    | nil => cases hd
    | cons d' items =>
      obtain ⟨hfirst, hnames⟩ := List.nodup_cons.1 hnames
      rcases List.mem_cons.1 hd with rfl | hd
      · exact ⟨name, List.mem_cons_self, j, if_pos rfl⟩
      · obtain ⟨name', hname', k, hfind⟩ := ih hnames (Nat.le_of_succ_le_succ hlength) hd (j + 1)
        refine ⟨name', List.mem_cons_of_mem _ hname', k, ?_⟩
        rw [List.zip_cons_cons, findMember, if_neg fun (heq : name = name') => hfirst
          (heq ▸ hname'), hfind]

theorem ofItems (hr : r.Heeds) (hnames : r.names.Nodup) {items : List Document}
    {stop : Option Fault} {a : α} (h : r.ofItems items stop = .ok a) :
    (∀ d ∈ items, d.fault? = none) ∧ stop = none := by
  obtain ⟨g, x, hlayout, hread, -⟩ := both_eq_ok.1 (mapError_eq_ok.1 h)
  obtain ⟨-, hlayout, -⟩ := map_eq_ok.1 hlayout
  split at hlayout
  · cases hlayout
  · rename_i hlength
    split at hlayout
    · cases hlayout
    · refine ⟨fun d hd => ?_, rfl⟩
      obtain ⟨name, hname, k, hfind⟩ := exists_findMember_zip hnames (Nat.le_of_not_lt hlength) hd 0
      exact hr _ x hread name hname (k, d) hfind

theorem objectReader (hr : r.Heeds) : r.objectReader.Heeds := by
  intro d a h
  unfold Record.objectReader at h
  split at h
  · exact Document.fault?_object.2 (hr.ofMembers h)
  · cases h

theorem reader (hr : r.Heeds) (hnames : r.names.Nodup) : r.reader.Heeds := by
  intro d a h
  unfold Record.reader at h
  split at h
  · exact Document.fault?_object.2 (hr.ofMembers h)
  · exact Document.fault?_array.2 (hr.ofItems hnames h)
  · cases h

theorem tagged {tag : String} {variant : String → Option (Record α)}
    (hvariant : ∀ s r, variant s = some r → r.Heeds ∧ r.names.Nodup) :
    (Record.tagged tag variant).Heeds := by
  intro d a h
  unfold Record.tagged at h
  split at h
  · -- an object: one member is the tag, and the record is read from the others
    rename_i members stop
    split at h
    · cases h
    · split at h
      · rename_i k d htags
        obtain ⟨s, hs, h⟩ := bind_eq_ok.1 h
        split at h
        · cases h
        · rename_i r hr
          obtain ⟨hothers, -⟩ := (hvariant s r hr).1.ofMembers h
          refine Document.fault?_object.2 ⟨fun m hm => ?_, rfl⟩
          by_cases hm' : m.1 = tag
          · have hmem : m ∈ members.filter fun m => m.1 = tag :=
              List.mem_filter.2 ⟨hm, by simpa using hm'⟩
            rw [htags] at hmem
            obtain rfl := List.mem_singleton.1 hmem
            exact Reader.Heeds.text d s hs
          · exact hothers m (List.mem_filter.2 ⟨hm, by simpa using hm'⟩)
      · cases h
  · -- an array: the tag is its first item
    split at h
    · cases h
    · cases h
    · rename_i d rest
      obtain ⟨s, hs, h⟩ := bind_eq_ok.1 h
      split at h
      · cases h
      · rename_i r hr
        obtain ⟨hread, hnames⟩ := hvariant s r hr
        obtain ⟨hrest, -⟩ := hread.ofItems hnames h
        exact Document.fault?_array.2
          ⟨List.forall_mem_cons.2 ⟨Reader.Heeds.text d s hs, hrest⟩, rfl⟩
  · cases h

end Record.Heeds

end Readers

end Parley.Json
