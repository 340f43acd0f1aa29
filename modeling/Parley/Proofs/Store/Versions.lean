import Parley.Proofs.Store.Kept

/-!
# The versions in a store

Versions are numbered from one without a gap, each is stored under its own id, and its record names
the version before it.  A publication appends a version or changes nothing.

* `Store.top`, `Store.append`, `Store.publish_cases`: what a publication does;
* `Store.Extends`: a store that has more versions;
* `Store.IsOrderly`, `Store.append_isOrderly`;
* `Store.latest_eq_ok`, `Store.load_eq_ok`: what look-ups find.
-/

namespace Parley

namespace Store

/-- The number of the last version of a flow. -/
def top (s : Store) (key : FlowKey) : Option Version := (s.versions key).getLast?.map Flow.version

/-- The store with one more version of a flow. -/
def append (s : Store) (key : FlowKey) (f : Flow) : Store :=
  { s with flows := s.flows.set key (s.versions key ++ [f]) }

variable {s s' s'' : Store} {key key' : FlowKey} {f : Flow}

theorem versions_append (s : Store) (key key' : FlowKey) (f : Flow) :
    (s.append key f).versions key' =
      if key = key' then s.versions key ++ [f] else s.versions key' := by
  unfold append versions
  rw [Table.get?_set]
  split <;> rfl

theorem publish_eq (s : Store) (tenant : TenantId) (f : Flow) (expected : Option Version) :
    s.publish tenant f expected =
      if s.top ⟨tenant, f.id⟩ ≠ expected then .ok (s, .stale ((s.top ⟨tenant, f.id⟩).getD 0))
      else if f.version ≠ (s.top ⟨tenant, f.id⟩).elim 1 (· + 1) then
        .error (.notSuccessor f.id f.version (s.top ⟨tenant, f.id⟩))
      else (s.checkVersion f.version).bind fun _ => .ok (s.append ⟨tenant, f.id⟩ f, .published) :=
        rfl

theorem append_mem (s : Store) (key : FlowKey) (f : Flow) : f ∈ (s.append key f).versions key := by
  rw [versions_append, if_pos rfl]
  exact List.mem_append_right _ List.mem_cons_self

theorem mem_versions_append {g : Flow} (hg : g ∈ (s.append key f).versions key') :
    g ∈ s.versions key' ∨ key = key' ∧ g = f := by
  rw [versions_append] at hg
  split at hg
  · rename_i heq
    subst heq
    exact (List.mem_append.1 hg).imp id fun hg => ⟨rfl, List.mem_singleton.1 hg⟩
  · exact .inl hg

/-- A publication finds another version on top, or appends the next one, or is refused. -/
theorem publish_cases (s : Store) (tenant : TenantId) (f : Flow) (expected : Option Version) :
    (s.top ⟨tenant, f.id⟩ ≠ expected ∧
      s.publish tenant f expected = .ok (s, .stale ((s.top ⟨tenant, f.id⟩).getD 0))) ∨
    (s.top ⟨tenant, f.id⟩ = expected ∧ f.version = expected.elim 1 (· + 1) ∧
      s.checkVersion f.version = .ok () ∧
      s.publish tenant f expected = .ok (s.append ⟨tenant, f.id⟩ f, .published)) ∨
    (s.top ⟨tenant, f.id⟩ = expected ∧ ∃ fault, s.publish tenant f expected = .error fault) := by
  rw [publish_eq]
  by_cases htop : s.top ⟨tenant, f.id⟩ = expected
  · right
    rw [if_neg (not_not.2 htop)]
    by_cases hversion : f.version = (s.top ⟨tenant, f.id⟩).elim 1 (· + 1)
    · rw [if_neg (not_not.2 hversion)]
      cases hcheck : s.checkVersion f.version with
      | error fault => exact .inr ⟨htop, fault, rfl⟩
      | ok u => exact .inl ⟨htop, htop ▸ hversion, rfl, rfl⟩
    · rw [if_pos hversion]
      exact .inr ⟨htop, _, rfl⟩
  · rw [if_pos htop]
    exact .inl ⟨htop, rfl⟩

/-! ### Stores that grow -/

/-- A store of the same kind that has all versions of another, and perhaps more after them. -/
structure Extends (s s' : Store) : Prop where
  backend : s'.backend = s.backend
  versions : ∀ key, s.versions key <+: s'.versions key

namespace Extends

theorem refl (s : Store) : s.Extends s := ⟨rfl, fun _ => List.prefix_rfl⟩

theorem trans (h : s.Extends s') (h' : s'.Extends s'') : s.Extends s'' :=
  ⟨h'.backend.trans h.backend, fun key => (h.versions key).trans (h'.versions key)⟩

theorem append (s : Store) (key : FlowKey) (f : Flow) : s.Extends (s.append key f) := by
  refine ⟨rfl, fun key' => ?_⟩
  rw [versions_append]
  split
  · rename_i h
    rw [h]
    exact List.prefix_append _ _
  · exact List.prefix_rfl

theorem mem (h : s.Extends s') (hf : f ∈ s.versions key) : f ∈ s'.versions key :=
  (h.versions key).subset hf

theorem kept_eq (h : s.Extends s') (f : Flow) : s'.kept f = s.kept f := by
  unfold kept
  rw [h.backend]

end Extends

/-! ### Orderly stores -/

/-- Each version has the id and the next number, fits into the store, and names the version before
it. -/
structure IsOrderly (s : Store) : Prop where
  ids : ∀ key, ∀ f ∈ s.versions key, f.id = key.flow
  numbers : ∀ key, (s.versions key).map Flow.version = List.range' 1 (s.versions key).length
  records : ∀ key, ∀ f ∈ s.versions key, ∃ r, f.record = some r ∧ r.version = f.version ∧
    r.predecessor = if f.version = 1 then none else some (f.version - 1)
  fits : ∀ key, ∀ f ∈ s.versions key, s.checkVersion f.version = .ok ()

namespace IsOrderly

/-- A store without versions is orderly. -/
theorem of_empty (h : ∀ key, s.versions key = []) : s.IsOrderly where
  ids key f hf := by
    rw [h key] at hf
    cases hf
  numbers key := by
    rw [h key]
    rfl
  records key f hf := by
    rw [h key] at hf
    cases hf
  fits key f hf := by
    rw [h key] at hf
    cases hf

variable (h : s.IsOrderly)
include h

theorem top_eq (key : FlowKey) :
    s.top key = if (s.versions key).length = 0 then none else some (s.versions key).length := by
  unfold top
  rw [← List.getLast?_map, h.numbers key, List.getLast?_range']
  split
  · rfl
  · rw [Nat.add_sub_cancel_left]

theorem version_le (hf : f ∈ s.versions key) :
    1 ≤ f.version ∧ f.version ≤ (s.versions key).length := by
  have hmem : f.version ∈ (s.versions key).map Flow.version := List.mem_map_of_mem hf
  rw [h.numbers key, List.mem_range'_1] at hmem
  exact ⟨hmem.1, Nat.lt_one_add_iff.1 hmem.2⟩

/-- No number is used twice. -/
theorem eq_of_version {f' : Flow} (hf : f ∈ s.versions key) (hf' : f' ∈ s.versions key)
    (hversion : f.version = f'.version) : f = f' := by
  refine List.inj_on_of_nodup_map ?_ hf hf' hversion
  rw [h.numbers key]
  exact List.nodup_range'

/-- The number that follows the last version. -/
theorem next_eq (key : FlowKey) : (s.top key).elim 1 (· + 1) = (s.versions key).length + 1 := by
  rw [h.top_eq key]
  split
  · rename_i hlength
    rw [hlength]
    rfl
  · rfl

/-- An orderly store stays orderly when the next version is appended. -/
theorem append {r : VersionRecord} (hid : f.id = key.flow)
    (hversion : f.version = (s.top key).elim 1 (· + 1)) (hrecord : f.record = some r)
    (hr : r.version = f.version ∧ r.predecessor = s.top key)
    (hfits : s.checkVersion f.version = .ok ()) : (s.append key f).IsOrderly := by
  -- the new version is one above the number of versions, so its predecessor is that number
  have hnext := hversion.trans (h.next_eq key)
  have hpredecessor : r.predecessor = if f.version = 1 then none else some (f.version - 1) := by
    rw [hr.2, h.top_eq key, hnext, Nat.add_sub_cancel]
    exact if_congr Nat.succ_inj.symm rfl rfl
  refine ⟨fun key' g hg => ?_, fun key' => ?_, fun key' g hg => ?_, fun key' g hg => ?_⟩
  · obtain hg | ⟨rfl, rfl⟩ := mem_versions_append hg
    · exact h.ids key' g hg
    · exact hid
  · rw [versions_append]
    split
    · rw [List.map_append, h.numbers key, List.length_append, List.map_singleton, hnext,
        List.length_singleton, List.range'_concat, Nat.one_mul, Nat.add_comm 1]
    · exact h.numbers key'
  · obtain hg | ⟨rfl, rfl⟩ := mem_versions_append hg
    · exact h.records key' g hg
    · exact ⟨r, hrecord, hr.1, hpredecessor⟩
  · obtain hg | ⟨rfl, rfl⟩ := mem_versions_append hg
    · exact h.fits key' g hg
    · exact hfits

/-! ### Look-ups -/

/-- What is found as the last version is what was kept of it. -/
theorem latest_eq_ok {f' : Flow} (hlatest : s.latest key = .ok (some f')) :
    ∃ f ∈ s.versions key, s.kept f = .ok f' ∧ f'.id = key.flow ∧ f'.version = f.version ∧
      s.top key = some f'.version := by
  unfold latest at hlatest
  cases hlast : (s.versions key).getLast? with
  | none =>
    rw [hlast] at hlatest
    cases hlatest
  | some f =>
    rw [hlast] at hlatest
    have hf := List.mem_of_getLast? hlast
    obtain ⟨g, hkept, hg⟩ := bind_eq_ok.1 hlatest
    cases hg
    obtain ⟨hid, hversion⟩ := kept_eq_ok (h.fits key f hf) hkept
    refine ⟨f, hf, hkept, hid.trans (h.ids key f hf), hversion, ?_⟩
    unfold top
    rw [hlast, hversion]
    rfl

/-- What is found as a version is what was kept of it. -/
theorem load_eq_ok {v : Version} {f' : Flow} (hload : s.load key v = .ok (some f')) :
    ∃ f ∈ s.versions key, f.version = v ∧ s.kept f = .ok f' ∧ f'.id = key.flow := by
  unfold load at hload
  obtain ⟨-, -, hload⟩ := bind_eq_ok.1 hload
  cases hfind : (s.versions key).find? fun f => f.version = v with
  | none =>
    rw [hfind] at hload
    cases hload
  | some f =>
    rw [hfind] at hload
    have hf := List.mem_of_find?_eq_some hfind
    have hv := List.find?_some hfind
    obtain ⟨g, hkept, hg⟩ := bind_eq_ok.1 hload
    cases hg
    obtain ⟨hid, -⟩ := kept_eq_ok (h.fits key f hf) hkept
    exact ⟨f, hf, of_decide_eq_true hv, hkept, hid.trans (h.ids key f hf)⟩

end IsOrderly

end Store

end Parley
