import Mathlib
import Parley.Table
import Parley.Dict

/-!
# Dictionaries, tables and lists

* `Dict.Ordered.insert`, `Dict.Ordered.erase`: the keys of a dictionary stay increasing;
* `Dict.insert_of_forall_lt`, `Dict.insert_perm`, `Table.set_of_get?_eq_none`: where a new key goes;
* `Dict.insert_insert`, `Dict.insert_comm`, `Dict.Ordered.insert_of_get?`: entries that are put in
  again, or in another order;
* `Dict.Ordered.ext`, `Dict.get?_of_forall₂`: dictionaries that agree on each key, and those with
  the same keys;
* `Table.map_fst_set`, `Table.map_fst_erase`: the keys of a table, in order of first insertion;
* `Table.map_eq_map_of_get?`: tables that agree on each key;
* `span_of_head`: a list is taken up to the first element that does not fit;
* `find?_eq_some_iff_of_find?`, `flatMap_filter_perm`: what searches find, and what is taken key by
  key;
* `flatMapAfter`: what elements come to, given those before them;
* `forall_foldl`, `foldl_eq_self`: steps that bring something about, and steps that change nothing;
* `nodup_eraseDups`, `findSome?_eraseDups`: lists without repeated elements;
* `filter_mergeSort_of_forall`: sorting keeps the order of what need not be sorted.
-/

namespace Parley

universe u v w

/-! ### Dictionaries -/

namespace Dict

variable {α : Type u} {β : Type v} {d : Dict α} {key : String}

theorem mem_insert {e : String × α} {value : α} (he : e ∈ d.insert key value) :
    e = (key, value) ∨ e ∈ d := by
  induction d with
  | nil => exact .inl (List.mem_singleton.1 he)
  | cons e' r ih =>
    obtain ⟨k, v⟩ := e'
    unfold insert at he
    split_ifs at he
    · exact List.mem_cons.1 he
    · exact (List.mem_cons.1 he).imp_right (List.mem_cons_of_mem _)
    · rcases List.mem_cons.1 he with rfl | he
      · exact .inr List.mem_cons_self
      · exact (ih he).imp_right (List.mem_cons_of_mem _)

theorem Ordered.insert (hd : d.Ordered) (key : String) (value : α) :
    (d.insert key value).Ordered := by
  induction d with
  | nil => exact List.pairwise_singleton _ _
  | cons e r ih =>
    obtain ⟨k, v⟩ := e
    obtain ⟨hk, hr⟩ := List.pairwise_cons.1 hd
    unfold Dict.insert
    split_ifs with hlt heq
    · refine List.pairwise_cons.2 ⟨fun e he => ?_, hd⟩
      rcases List.mem_cons.1 he with rfl | he
      · exact hlt
      · exact lt_trans hlt (hk e he)
    · exact List.pairwise_cons.2 ⟨fun e he => heq ▸ hk e he, hr⟩
    · refine List.pairwise_cons.2 ⟨fun e he => ?_, ih hr⟩
      rcases mem_insert he with rfl | he
      · exact lt_of_le_of_ne (not_lt.1 hlt) heq
      · exact hk e he

theorem Ordered.erase (hd : d.Ordered) (key : String) : (d.erase key).Ordered :=
  List.Pairwise.filter _ hd

theorem mem_keys_iff : key ∈ d.map Prod.fst ↔ d.get? key ≠ none := by
  induction d with
  | nil => simp
  | cons e r ih =>
    obtain ⟨k, v⟩ := e
    rw [List.map_cons, List.mem_cons, ih, get?]
    by_cases hk : k = key
    · simp [hk]
    · simp [hk, Ne.symm hk]

/-- What is found stands in the dictionary. -/
theorem mem_of_get? {value : α} (h : d.get? key = some value) : (key, value) ∈ d := by
  induction d with
  | nil => cases h
  | cons e r ih =>
    obtain ⟨k, v⟩ := e
    unfold get? at h
    split at h
    · rename_i hk
      cases h
      exact hk ▸ List.mem_cons_self
    · exact List.mem_cons_of_mem _ (ih h)

/-- With increasing keys, what stands in the dictionary is found. -/
theorem Ordered.get?_of_mem (hd : d.Ordered) {value : α} (h : (key, value) ∈ d) :
    d.get? key = some value := by
  induction d with
  | nil => cases h
  | cons e r ih =>
    obtain ⟨k, v⟩ := e
    obtain ⟨hk, hr⟩ := List.pairwise_cons.1 hd
    unfold get?
    rcases List.mem_cons.1 h with heq | h
    · cases heq
      exact if_pos rfl
    · rw [if_neg (ne_of_lt (hk _ h)), ih hr h]

/-- With increasing keys, what is found stands apart from entries with other keys. -/
theorem Ordered.exists_of_get? (hd : d.Ordered) {value : α} (h : d.get? key = some value) :
    ∃ front back, d = front ++ (key, value) :: back ∧ (∀ e ∈ front, e.1 ≠ key) ∧ ∀ e ∈ back,
      e.1 ≠ key := by
  obtain ⟨front, back, rfl⟩ := List.append_of_mem (mem_of_get? h)
  obtain ⟨-, hback, hfront⟩ := List.pairwise_append.1 hd
  exact ⟨front, back, rfl, fun e he => (hfront e he _ List.mem_cons_self).ne,
    fun e he => ((List.pairwise_cons.1 hback).1 e he).ne'⟩

/-- With increasing keys, what is found under each key is all there is. -/
theorem Ordered.ext {d' : Dict α} (hd : d.Ordered) (hd' : d'.Ordered)
    (h : ∀ key, d.get? key = d'.get? key) :
    d = d' := by
  have : Std.Antisymm fun a b : String × α => a.1 < b.1 :=
    ⟨fun _ _ hlt hgt => absurd hlt (lt_asymm hgt)⟩
  have : Std.Irrefl fun a b : String × α => a.1 < b.1 := ⟨fun _ => lt_irrefl _⟩
  refine hd.eq_of_mem_iff hd' fun e => ?_
  constructor
  · exact fun he => mem_of_get? ((h e.1).symm.trans (hd.get?_of_mem he))
  · exact fun he => mem_of_get? ((h e.1).trans (hd'.get?_of_mem he))

/-- A key above all others is put at the end. -/
theorem insert_of_forall_lt {value : α} (h : ∀ e ∈ d, e.1 < key) :
    d.insert key value = d ++ [(key, value)] := by
  induction d with
  | nil => rfl
  | cons e r ih =>
    obtain ⟨k, v⟩ := e
    obtain ⟨hk, hr⟩ := List.forall_mem_cons.1 h
    rw [insert, if_neg (not_lt_of_gt hk), if_neg hk.ne, ih hr, List.cons_append]

/-- A new key is put somewhere among the others. -/
theorem insert_perm (h : key ∉ d.map Prod.fst) (value : α) :
    (d.insert key value).Perm ((key, value) :: d) := by
  induction d with
  | nil => exact .refl _
  | cons e r ih =>
    obtain ⟨k, v⟩ := e
    rw [List.map_cons, List.mem_cons, not_or] at h
    unfold insert
    split_ifs with hlt heq
    · exact .refl _
    · exact absurd heq.symm h.1
    · exact ((ih h.2).cons _).trans (.swap _ _ _)

theorem Ordered.ofList_eq (hd : d.Ordered) : ofList d = d := by
  induction d using List.reverseRecOn with
  | nil => rfl
  | append_singleton d e ih =>
    obtain ⟨hfront, -, hlast⟩ := List.pairwise_append.1 hd
    rw [ofList, List.foldl_concat, ← ofList, ih hfront,
      insert_of_forall_lt fun e' he' => hlast e' he' e (List.mem_singleton_self e)]

theorem ordered_ofList (entries : List (String × α)) : (ofList entries).Ordered := by
  induction entries using List.reverseRecOn with
  | nil => exact .nil
  | append_singleton entries e ih =>
    rw [ofList, List.foldl_concat, ← ofList]
    exact ih.insert e.1 e.2

/-- Whatever stands in the dictionary of a list stands in the list. -/
theorem mem_of_mem_ofList {entries : List (String × α)} {e : String × α} (he : e ∈ ofList entries) :
    e ∈ entries := by
  suffices ∀ d : Dict α, e ∈ entries.foldl (fun d e => d.insert e.1 e.2) d →
      e ∈ d ∨ e ∈ entries from
    (this [] he).resolve_left List.not_mem_nil
  clear he
  induction entries with
  | nil => exact fun d he => .inl he
  | cons e' r ih =>
    intro d he
    rcases ih _ he with he | he
    · rcases mem_insert he with rfl | he
      · exact .inr List.mem_cons_self
      · exact .inl he
    · exact .inr (List.mem_cons_of_mem _ he)

theorem get?_append (d d' : Dict α) (key : String) :
    get? (d ++ d') key = (d.get? key).or (d'.get? key) := by
  induction d with
  | nil => rfl
  | cons e r ih =>
    obtain ⟨k, v⟩ := e
    rw [List.cons_append, get?, get?, ih]
    split <;> rfl

theorem get?_eq_none (h : key ∉ d.map Prod.fst) : d.get? key = none :=
  not_not.1 (mt mem_keys_iff.2 h)

/-- The dictionary of a list without repeated keys has the entries of the list. -/
theorem get?_ofList {entries : List (String × α)} (h : (entries.map Prod.fst).Nodup)
    (key : String) :
    (ofList entries).get? key = get? entries key := by
  induction entries using List.reverseRecOn with
  | nil => rfl
  | append_singleton entries e ih =>
    rw [List.map_append] at h
    obtain ⟨hfront, -, hnew⟩ := List.nodup_append.1 h
    rw [ofList, List.foldl_concat, ← ofList, get?_insert, ih hfront, get?_append]
    by_cases hkey : e.1 = key
    · subst hkey
      rw [get?_eq_none fun he => hnew _ he _ (List.mem_singleton_self _) rfl]
      rfl
    · simp [get?, hkey]

/-- Of two values with the same key the later one stays. -/
theorem insert_insert (d : Dict α) (key : String) (value value' : α) :
    (d.insert key value).insert key value' = d.insert key value' := by
  induction d with
  | nil => simp [insert]
  | cons e r ih =>
    obtain ⟨k, v⟩ := e
    unfold insert
    split_ifs <;> simp_all [insert]

/-- Values with different keys can be put in in any order. -/
theorem insert_comm (d : Dict α) {k k' : String} (h : k ≠ k') (value value' : α) :
    (d.insert k value).insert k' value' = (d.insert k' value').insert k value := by
  induction d with
  | nil => grind [insert]
  | cons e r ih => grind [insert]

theorem Ordered.mapValues (hd : d.Ordered) (f : α → β) : (d.mapValues f).Ordered :=
  List.Pairwise.map _ (fun _ _ hlt => hlt) hd

theorem get?_mapValues (d : Dict α) (f : α → β) (key : String) :
    (d.mapValues f).get? key = (d.get? key).map f := by
  induction d with
  | nil => rfl
  | cons e r ih =>
    obtain ⟨k, v⟩ := e
    show get? ((k, f v) :: Dict.mapValues r f) key = _
    rw [get?, get?, ih]
    split <;> rfl

/-- A value that is there already changes nothing. -/
theorem Ordered.insert_of_get? (hd : d.Ordered) {value : α} (h : d.get? key = some value) :
    d.insert key value = d := by
  refine (hd.insert key value).ext hd fun k => ?_
  rw [get?_insert]
  split
  · rename_i hk
    rw [← hk, h]
  · rfl

/-- A value in place of another one changes no key. -/
theorem Ordered.map_fst_insert (hd : d.Ordered) {value : α} (h : d.get? key = some value)
    (value' : α) :
    (d.insert key value').map Prod.fst = d.map Prod.fst := by
  have hkeys (d : Dict α) : d.map Prod.fst = (d.mapValues fun _ => ()).map Prod.fst := by
    rw [Dict.mapValues, List.map_map]
    rfl
  rw [hkeys, hkeys d]
  refine congrArg _ (((hd.insert key value').mapValues _).ext (hd.mapValues _) fun k => ?_)
  rw [get?_mapValues, get?_mapValues, get?_insert]
  split
  · rename_i hk
    rw [← hk, h]
    rfl
  · rfl

/-- With increasing keys there is at most one entry for each. -/
theorem Ordered.filter_key (hd : d.Ordered) (key : String) :
    d.filter (fun e => e.1 = key) = ((d.get? key).map (key, ·)).toList := by
  cases h : d.get? key with
  | none =>
    refine List.filter_eq_nil_iff.2 fun e he hk => ?_
    exact mem_keys_iff.1 (List.mem_map.2 ⟨e, he, of_decide_eq_true hk⟩) h
  | some value =>
    obtain ⟨front, back, rfl, hfront, hback⟩ := hd.exists_of_get? h
    rw [List.filter_append, List.filter_cons,
      List.filter_eq_nil_iff.2 fun e he => by simpa using hfront e he,
        List.filter_eq_nil_iff.2 fun e he => by simpa using hback e he]
    simp

theorem Ordered.flatMap_of_get? (hd : d.Ordered) {value : α} (h : d.get? key = some value)
    (f : α → List β) :
    (d.flatMap fun e => if e.1 = key then f e.2 else []) = f value := by
  obtain ⟨front, back, rfl, hfront, hback⟩ := hd.exists_of_get? h
  have hnone {es : Dict α} (hes : ∀ e ∈ es, e.1 ≠ key) :
      (es.flatMap fun e => if e.1 = key then f e.2 else []) = [] :=
    List.flatMap_eq_nil_iff.2 fun e he => if_neg (hes e he)
  rw [List.flatMap_append, List.flatMap_cons, hnone hfront, hnone hback, if_pos rfl,
    List.nil_append, List.append_nil]

/-- Entries that correspond to each other are found under the same keys. -/
theorem get?_of_forall₂ {R : String → α → β → Prop} {as : Dict α} {bs : Dict β}
    (h : List.Forall₂ (fun a b => b.1 = a.1 ∧ R a.1 a.2 b.2) as bs) (key : String) :
    (as.get? key = none ∧ bs.get? key = none) ∨
      ∃ a b, as.get? key = some a ∧ bs.get? key = some b ∧ R key a b := by
  induction h with
  | nil => exact .inl ⟨rfl, rfl⟩
  | @cons a b as bs hab _ ih =>
    obtain ⟨k, a⟩ := a
    obtain ⟨k', b⟩ := b
    obtain ⟨hkey, hR⟩ := hab
    cases hkey
    unfold get?
    split
    · rename_i hk
      exact .inr ⟨a, b, rfl, rfl, hk ▸ hR⟩
    · exact ih

end Dict

/-! ### Tables -/

namespace Table

variable {κ : Type u} {α : Type v} [DecidableEq κ] {t : Table κ α} {key : κ}

theorem mem_keys_iff : key ∈ t.map Prod.fst ↔ (t.get? key).isSome = true := by
  induction t with
  | nil => simp
  | cons e r ih =>
    obtain ⟨k, v⟩ := e
    rw [List.map_cons, List.mem_cons, ih, get?]
    by_cases hk : k = key
    · simp [hk]
    · simp [hk, Ne.symm hk]

theorem map_fst_set (t : Table κ α) (key : κ) (value : α) :
    (t.set key value).map Prod.fst =
      if (t.get? key).isSome then t.map Prod.fst else t.map Prod.fst ++ [key] := by
  induction t with
  | nil => rfl
  | cons e r ih =>
    obtain ⟨k, v⟩ := e
    unfold set get?
    by_cases hk : k = key
    · simp [hk]
    · rw [if_neg hk, if_neg hk, List.map_cons, ih]
      split <;> rfl

/-- A new key is put at the end. -/
theorem set_of_get?_eq_none (h : t.get? key = none) (value : α) :
    t.set key value = t ++ [(key, value)] := by
  induction t with
  | nil => rfl
  | cons e r ih =>
    obtain ⟨k, v⟩ := e
    unfold get? at h
    split at h
    · cases h
    · rename_i hk
      rw [set, if_neg hk, ih h, List.cons_append]

theorem length_set_le (t : Table κ α) (key : κ) (value : α) :
    (t.set key value).length ≤ t.length + 1 := by
  induction t with
  | nil => exact Nat.le_refl 1
  | cons e r ih =>
    rw [set]
    split
    · exact Nat.le_succ _
    · exact Nat.succ_le_succ ih

theorem map_fst_erase (t : Table κ α) (key : κ) :
    (t.erase key).map Prod.fst = (t.map Prod.fst).filter fun k => k ≠ key := by
  rw [erase, List.filter_map]
  rfl

/-- With distinct keys, what stands in the table is found. -/
theorem get?_of_mem (ht : (t.map Prod.fst).Nodup) {value : α} (h : (key, value) ∈ t) :
    t.get? key = some value := by
  induction t with
  | nil => cases h
  | cons e r ih =>
    obtain ⟨k, v⟩ := e
    obtain ⟨hk, hr⟩ := List.nodup_cons.1 ht
    unfold get?
    rcases List.mem_cons.1 h with heq | h
    · cases heq
      exact if_pos rfl
    · have hne : k ≠ key := by
        rintro rfl
        exact hk (List.mem_map.2 ⟨_, h, rfl⟩)
      rw [if_neg hne, ih hr h]

theorem mem_of_get? {value : α} (h : t.get? key = some value) : (key, value) ∈ t := by
  induction t with
  | nil => cases h
  | cons e r ih =>
    obtain ⟨k, v⟩ := e
    unfold get? at h
    split at h
    · rename_i hk
      cases h
      exact hk ▸ List.mem_cons_self
    · exact List.mem_cons_of_mem _ (ih h)

/-- Tables with the same keys in the same order have the same values, as far as they agree on each
key. -/
theorem map_eq_map_of_get? {β : Type w} {t' : Table κ α} {f : α → β}
    (hkeys : t'.map Prod.fst = t.map Prod.fst) (ht : (t.map Prod.fst).Nodup)
    (h : ∀ key, (t'.get? key).map f = (t.get? key).map f) :
    t'.map (fun e => f e.2) = t.map fun e => f e.2 := by
  have hvalues {t : Table κ α} (ht : (t.map Prod.fst).Nodup) :
      (t.map fun e => f e.2).map some = (t.map Prod.fst).map fun key => (t.get? key).map f := by
    rw [List.map_map, List.map_map]
    refine List.map_congr_left fun e he => ?_
    rw [Function.comp_apply, Function.comp_apply, get?_of_mem ht he, Option.map_some]
  refine List.map_injective_iff.2 (Option.some_injective β) ?_
  rw [hvalues (hkeys ▸ ht), hvalues ht, hkeys]
  exact List.map_congr_left fun key _ => h key

end Table

/-! ### Elements in order -/

theorem span_of_head {α : Type u} {p : α → Bool} {as rest : List α} (has : ∀ a ∈ as, p a = true)
    (hrest : ∀ a ∈ rest.head?, p a = false) :
    (as ++ rest).takeWhile p = as ∧ (as ++ rest).dropWhile p = rest := by
  rw [List.takeWhile_append_of_pos has, List.dropWhile_append_of_pos has]
  cases rest with
  | nil => simp
  | cons a r => simp [hrest a rfl]

/-- What stands last among some elements of a list has none of them behind it. -/
theorem getLast?_filter_eq_some_iff {α : Type u} {p : α → Bool} {l : List α} {a : α} :
    (l.filter p).getLast? = some a ↔ ∃ front back, l = front ++ a :: back ∧ p a = true ∧ ∀ b ∈ back,
      ¬ p b = true := by
  rw [List.getLast?_eq_some_iff]
  constructor
  · rintro ⟨ys, h⟩
    obtain ⟨l₁, l₂, rfl, -, h⟩ := List.filter_eq_append_iff.1 h
    obtain ⟨l₃, l₄, rfl, -, ha, h⟩ := List.filter_eq_cons_iff.1 h
    exact ⟨l₁ ++ l₃, l₄, (List.append_assoc ..).symm, ha, List.filter_eq_nil_iff.1 h⟩
  · rintro ⟨front, back, rfl, ha, hback⟩
    exact ⟨front.filter p, by
      rw [List.filter_append, List.filter_cons_of_pos ha, List.filter_eq_nil_iff.2 hback]⟩

/-- What one search has found another one finds too if it stops there and not before. -/
theorem find?_eq_some_iff_of_find? {α : Type u} {p q : α → Bool} {as : List α} {w : α}
    (h : as.find? p = some w) :
    as.find? q = some w ↔ q w = true ∧ ∀ a ∈ as.takeWhile (fun a => !p a), q a = false := by
  obtain ⟨hw, before, after, rfl, hbefore⟩ := List.find?_eq_some_iff_append.1 h
  have htake : (before ++ w :: after).takeWhile (fun a => !p a) = before := by
    rw [List.takeWhile_append_of_pos hbefore, List.takeWhile_cons, hw]
    exact List.append_nil before
  rw [htake, List.find?_append]
  constructor
  · intro hfind
    refine ⟨?_, fun a ha => ?_⟩
    · rw [← List.find?_append] at hfind
      exact List.find?_some hfind
    · by_contra htrue
      -- what is found before is not `w`, which `p` accepts
      obtain ⟨b, hb⟩ :=
        Option.isSome_iff_exists.1 (List.find?_isSome.2 ⟨a, ha, Bool.eq_true_of_not_eq_false htrue⟩)
      rw [hb, Option.some_or, Option.some.injEq] at hfind
      have hnot := hbefore b (List.mem_of_find?_eq_some hb)
      rw [hfind, hw] at hnot
      cases hnot
  · rintro ⟨hself, hnone⟩
    rw [List.find?_eq_none.2 fun a ha => Bool.eq_false_iff.1 (hnone a ha), Option.none_or]
    exact List.find?_cons_of_pos hself

/-- What is taken key by key, each key once, is everything. -/
theorem flatMap_filter_perm {α : Type u} {β : Type v} [DecidableEq β] {key : α → β} {keys : List β}
    {as : List α} (hkeys : keys.Nodup) (h : ∀ a ∈ as, key a ∈ keys) :
    (keys.flatMap fun k => as.filter fun a => key a = k).Perm as := by
  induction keys generalizing as with
  | nil =>
    have hnil : as = [] := List.eq_nil_iff_forall_not_mem.2 fun a ha => List.not_mem_nil (h a ha)
    rw [hnil, List.flatMap_nil]
  | cons k keys ih =>
    obtain ⟨hk, hkeys⟩ := List.nodup_cons.1 hkeys
    have hother : (keys.flatMap fun k' => as.filter fun a => key a = k') =
        keys.flatMap fun k' => (as.filter fun a => !decide (key a = k)).filter fun a =>
          key a = k' := by
      refine List.flatMap_congr fun k' hk' => ?_
      rw [List.filter_filter]
      refine List.filter_congr fun a _ => ?_
      by_cases hkey : key a = k'
      · simp [hkey, ne_of_mem_of_not_mem hk' hk]
      · simp [hkey]
    have hrest : (keys.flatMap fun k' => as.filter fun a => key a = k').Perm
        (as.filter fun a => !decide (key a = k)) := by
      rw [hother]
      refine ih hkeys fun a ha => ?_
      obtain ⟨hmem, hne⟩ := List.mem_filter.1 ha
      exact (List.mem_cons.1 (h a hmem)).resolve_left (by simpa using hne)
    rw [List.flatMap_cons]
    exact (hrest.append_left _).trans (List.filter_append_perm _ as)

/-- What each step brings about and later ones keep holds in the end. -/
theorem forall_foldl {α : Type u} {β : Type v} {f : β → α → β} {P : β → α → Prop} {as : List α}
    (hstep : ∀ a ∈ as, ∀ b, P (f b a) a) (hkeep : as.Pairwise fun a a' => ∀ b, P b a → P (f b a') a)
    (b : β) :
    ∀ a ∈ as, P (as.foldl f b) a := by
  induction as using List.reverseRecOn with
  | nil => nofun
  | append_singleton as a ih =>
    obtain ⟨hstep, hlast⟩ := List.forall_mem_append.1 hstep
    obtain ⟨hkeep, -, hkept⟩ := List.pairwise_append.1 hkeep
    rw [List.foldl_concat]
    refine List.forall_mem_append.2 ⟨fun a' ha' => ?_, List.forall_mem_singleton.2 ?_⟩
    · exact hkept a' ha' a (List.mem_singleton_self a) _ (ih hstep hkeep a' ha')
    · exact hlast a (List.mem_singleton_self a) _

/-- Steps that change nothing. -/
theorem foldl_eq_self {α : Type u} {β : Type v} {f : β → α → β} {b : β} {as : List α}
    (h : ∀ a ∈ as, f b a = b) :
    as.foldl f b = b := by
  induction as with
  | nil => rfl
  | cons a as ih =>
    obtain ⟨ha, has⟩ := List.forall_mem_cons.1 h
    rw [List.foldl_cons, ha, ih has]

/-- What the elements of a list come to, each together with those before it. -/
def flatMapAfter {α : Type u} {β : Type v} (f : List α → α → List β) : List α → List α → List β
  | _, [] => []
  | past, a :: as => f past a ++ flatMapAfter f (past ++ [a]) as

section Past

variable {α : Type u} {β : Type v} {f : List α → α → List β}

theorem flatMapAfter_concat (past as : List α) (a : α) :
    flatMapAfter f past (as ++ [a]) = flatMapAfter f past as ++ f (past ++ as) a := by
  induction as generalizing past with
  | nil => simp [flatMapAfter]
  | cons a' as ih =>
    rw [List.cons_append, flatMapAfter, flatMapAfter, ih, List.append_assoc, List.append_assoc]
    rfl

theorem mem_flatMapAfter {past as : List α} {b : β} :
    b ∈ flatMapAfter f past as ↔ ∃ front a back, as = front ++ a :: back ∧
      b ∈ f (past ++ front) a := by
  induction as generalizing past with
  | nil => simp [flatMapAfter]
  | cons a as ih =>
    rw [flatMapAfter, List.mem_append, ih]
    constructor
    · rintro (h | ⟨front, a', back, rfl, h⟩)
      · exact ⟨[], a, as, rfl, by rwa [List.append_nil]⟩
      · exact ⟨a :: front, a', back, rfl, by rwa [List.append_assoc] at h⟩
    · rintro ⟨_ | ⟨a', front⟩, a'', back, h, hb⟩
      · cases h
        exact .inl (by rwa [List.append_nil] at hb)
      · cases h
        exact .inr ⟨front, a'', back, rfl, by rwa [List.append_assoc]⟩

end Past

/-! ### Repeated elements -/

section Repeated

variable {α : Type u} {β : Type v} [BEq α] [LawfulBEq α]

/-- What is left of repeated elements is left once. -/
theorem nodup_eraseDups (xs : List α) : xs.eraseDups.Nodup := by
  match xs with
  | [] => exact List.nodup_nil
  | x :: xs =>
    rw [List.eraseDups_cons, List.nodup_cons, List.mem_eraseDups]
    exact ⟨by simp, nodup_eraseDups _⟩
termination_by xs.length
decreasing_by exact Nat.lt_succ_of_le (List.length_filter_le _ _)

/-- The first result is the same if no element is tried twice. -/
theorem findSome?_eraseDups (f : α → Option β) (xs : List α) :
    xs.eraseDups.findSome? f = xs.findSome? f := by
  match xs with
  | [] => rfl
  | x :: xs =>
    rw [List.eraseDups_cons, List.findSome?_cons, List.findSome?_cons, findSome?_eraseDups]
    cases hx : f x with
    | some y => rfl
    | none =>
      -- the elements that are left out give no result either
      have hleft : (xs.filter fun y => !y == x).filterMap f = xs.filterMap f := by
        rw [List.filterMap_filter]
        refine List.filterMap_congr fun y _ => ?_
        by_cases hy : y = x <;> simp [hy, hx]
      simp only [← List.head?_filterMap, hleft]
termination_by xs.length
decreasing_by exact Nat.lt_succ_of_le (List.length_filter_le _ _)

end Repeated

/-! ### Sorting -/

/-- Elements none of which need stand before another keep their order when a list is sorted. -/
theorem filter_mergeSort_of_forall {α : Type u} {le : α → α → Bool}
    (htrans : ∀ a b c, le a b = true → le b c = true → le a c = true)
    (htotal : ∀ a b, (le a b || le b a) = true) {p : α → Bool}
    (hp : ∀ a b, p a = true → p b = true → le a b = true) (xs : List α) :
    (xs.mergeSort le).filter p = xs.filter p := by
  have hsorted : (xs.filter p).Pairwise fun a b => le a b = true := by
    rw [List.pairwise_filter]
    exact List.pairwise_of_forall hp
  have hsub := (List.sublist_mergeSort htrans htotal hsorted List.filter_sublist).filter p
  rw [List.filter_filter] at hsub
  simp only [Bool.and_self] at hsub
  exact (hsub.eq_of_length ((List.mergeSort_perm _ _).filter _).length_eq.symm).symm

end Parley
