import Parley.Proofs.Conversation.Signals
import Parley.Proofs.Number.Whole

/-!
# Settings that are accepted

Settings are refused when a test finds a value out of its bounds.  A threshold or a penalty that is
no number is out of its bounds too, but the tests do not find it.  A path that is signalled again
and again is locked as soon as the signals reach the threshold, if they can be counted so far and
the penalty is finite; an infinite penalty is no number when it is taken zero times.

* `PolicySettings.tally`, `PolicySettings.LocksInTheEnd`: a path that is signalled again and again;
* `PolicySettings.locksInTheEnd_iff`: which penalties let it be locked;
* `Settings.check_eq_ok_iff`: the tests;
* `Settings.bounds_of_check`.
-/

namespace Parley

namespace PolicySettings

variable {p : PolicySettings Binary64} {path : PathId} {n : ℕ}

/-- The state after so many signals for a path, one turn after the other from the beginning. -/
def tally (p : PolicySettings Binary64) (path : PathId) (n : ℕ) : PathState Binary64 :=
  p.observeAll {} (List.replicate n (some path))

/-- The votes for a path. -/
def votesOf (s : PathState Binary64) (path : PathId) : Binary64 :=
  (s.votes.get? path).getD ((0 : ℕ) : Binary64)

/-- Any path is locked once it is signalled often enough. -/
def LocksInTheEnd (p : PolicySettings Binary64) : Prop :=
  ∀ path, ∃ n, (p.tally path n).locked? = some path

theorem tally_succ (p : PolicySettings Binary64) (path : PathId) (n : ℕ) :
    p.tally path (n + 1) = (p.observe (p.tally path n) (some path)).1 := by
  rw [tally, List.replicate_succ', observeAll_concat, tally]

/-! ### Penalties -/

/-- As long as there is no change of mind, the threshold is what is required. -/
theorem required_eq {s : PathState Binary64} {u : ℕ}
    (hthreshold : p.lockThreshold.value = .finite false u)
    (hpenalty : p.switchPenalty.isFinite = true) (hs : s.switches = 0) :
    p.required s = p.lockThreshold := by
  obtain ⟨neg, hzero⟩ := Binary64.value_mul_zero hpenalty
  rw [required, hs]
  exact Binary64.add_zero_of_value hthreshold hzero

/-- A penalty that is not finite makes what is required no number, even before it is due. -/
theorem required_isNaN {s : PathState Binary64} (hpenalty : p.switchPenalty.isFinite = false)
    (hs : s.switches = 0) :
    (p.required s).isNaN = true := by
  rw [required, hs]
  exact Binary64.isNaN_add (Binary64.isNaN_mul_zero hpenalty)

/-! ### Signals for one path -/

/-- No path is locked yet, and a signal for this one would not be a change of mind, of which there
was none. -/
structure Steady (s : PathState Binary64) (path : PathId) : Prop where
  open_ : s.isLocked = false
  same : isSwitch s path = false
  switches : s.switches = 0

theorem Steady.voted {s : PathState Binary64} (hs : Steady s path) :
    Steady (p.voted s path) path where
  open_ := rfl
  same := by simp [isSwitch, PolicySettings.voted]
  switches := by simp [PolicySettings.voted, hs.same, hs.switches]

/-- A signal that does not lock its path is counted, and that is all. -/
theorem tally_succ_of_short (hs : Steady (p.tally path n) path)
    (hshort : ¬p.required (p.voted (p.tally path n) path) ≤
      votesOf (p.voted (p.tally path n) path) path) :
    p.tally path (n + 1) = p.voted (p.tally path n) path := by
  rw [tally_succ, observe_some hs.open_, vote_eq]
  exact congrArg Prod.fst (if_neg hshort)

theorem locked?_tally_succ (hs : Steady (p.tally path n) path)
    (henough : p.required (p.voted (p.tally path n) path) ≤
      votesOf (p.voted (p.tally path n) path) path) :
    (p.tally path (n + 1)).locked? = some path := by
  rw [tally_succ, observe_some hs.open_, vote_eq]
  exact congrArg (PathState.locked? ∘ Prod.fst) (if_pos henough)

/-- With a penalty that is not finite no signals lock their path. -/
theorem steady_tally (hpenalty : p.switchPenalty.isFinite = false) (path : PathId) (n : ℕ) :
    Steady (p.tally path n) path := by
  induction n with
  | zero => exact ⟨rfl, rfl, rfl⟩
  | succ n ih =>
    have hnext : Steady (p.voted (p.tally path n) path) path := ih.voted
    have hnan := required_isNaN hpenalty hnext.switches
    rw [tally_succ_of_short ih fun hle => ?_]
    · exact hnext
    · exact absurd ((Binary64.le_of_isNaN hnan).symm.trans hle) Bool.false_ne_true

theorem votes_voted {s : PathState Binary64} (hn : n < 2 ^ 53)
    (hvotes : votesOf s path = .ofNat n) : votesOf (p.voted s path) path = .ofNat (n + 1) := by
  rw [votesOf] at hvotes
  rw [votesOf, voted, get?_castVote, Option.getD_some, hvotes]
  exact Binary64.ofNat_add_one hn

/-- As long as the signals for a path can be counted and are too few to lock it, its votes are as
many. -/
theorem votes_tally (hfew : ∀ k, (p.tally path k).locked? ≠ some path) (hn : n ≤ 2 ^ 53) :
    Steady (p.tally path n) path ∧ votesOf (p.tally path n) path = .ofNat n := by
  induction n with
  | zero => exact ⟨⟨rfl, rfl, rfl⟩, rfl⟩
  | succ n ih =>
    obtain ⟨hs, hvotes⟩ := ih (by omega)
    rw [tally_succ_of_short hs fun henough => hfew (n + 1) (locked?_tally_succ hs henough)]
    exact ⟨hs.voted, votes_voted (by omega) hvotes⟩

/-- With a finite penalty the signals for a path lock it at the latest when their number is at the
threshold. -/
theorem exists_locked {u : ℕ} (hthreshold : p.lockThreshold.value = .finite false u)
    (hpenalty : p.switchPenalty.isFinite = true) (hpos : 0 < n) (hn : n ≤ 2 ^ 53)
    (hreached : p.lockThreshold.le (.ofNat n) = true) (path : PathId) :
    ∃ k, (p.tally path k).locked? = some path := by
  by_contra! hfew
  obtain ⟨n, rfl⟩ := Nat.exists_eq_succ_of_ne_zero hpos.ne'
  obtain ⟨hs, hvotes⟩ := votes_tally hfew (Nat.le_of_succ_le hn)
  have hnext : Steady (p.voted (p.tally path n) path) path := hs.voted
  refine hfew (n + 1) (locked?_tally_succ hs ?_)
  rw [votes_voted hn hvotes, required_eq hthreshold hpenalty hnext.switches]
  exact hreached

/-- A threshold that can be counted to is reached unless the penalty is no number when it is taken
zero times. -/
theorem locksInTheEnd_iff (hpos : (Binary64.ofNat 0).lt p.lockThreshold = true)
    (hcountable : p.lockThreshold.lt (.ofNat (2 ^ 53)) = true) :
    p.LocksInTheEnd ↔ p.switchPenalty.isFinite = true := by
  obtain ⟨u, hu⟩ := Binary64.exists_units hpos le_rfl hcountable
  refine ⟨fun hlocks => ?_, fun hpenalty =>
    exists_locked hu hpenalty (Nat.two_pow_pos 53) le_rfl (Binary64.le_of_lt hcountable)⟩
  by_contra hpenalty
  rw [Bool.not_eq_true] at hpenalty
  obtain ⟨n, hn⟩ := hlocks ""
  rw [PathState.locked?_eq_none (steady_tally hpenalty "" n).open_] at hn
  cases hn

end PolicySettings

/-! ### The tests -/

theorem ite_error_eq_ok {ε α : Type} {c : Prop} [Decidable c] {e : ε} {x : Except ε α} {a : α} :
    (if c then .error e else x) = .ok a ↔ ¬c ∧ x = .ok a := by
  split <;> simp [*]

variable {s : Settings}

theorem Settings.check_eq_ok_iff : s.check = .ok () ↔
    s.pathPolicy.lockThreshold.le (.ofNat 0) = false ∧
    ((Binary64.ofNat 0).le s.pathPolicy.decay = true ∧ s.pathPolicy.decay.le (.ofNat 1) = true) ∧
    s.pathPolicy.switchPenalty.lt (.ofNat 0) = false ∧
    1 ≤ s.traversal.maxAutoSteps ∧ 1 ≤ s.lanes.buffer ∧ 1 ≤ s.lanes.idleTimeout ∧
    1 ≤ s.lanes.graphCache := by
  simp only [check, ite_error_eq_ok, and_true, Bool.not_eq_true, Bool.not_eq_true',
    Bool.not_eq_false, Bool.and_eq_true, Nat.one_le_iff_ne_zero, ne_eq]

/-- **Accepted settings are within their bounds but for a threshold or a penalty that is no
number.**  The tests find every other value that is out of its bounds.  If the threshold can be
counted to, signals for a path lock it in the end, unless the penalty is not finite. -/
theorem Settings.bounds_of_check (s : Settings) (h : s.check = .ok ()) :
    ((Binary64.ofNat 0).lt s.pathPolicy.lockThreshold = true ↔
      s.pathPolicy.lockThreshold.isNaN = false) ∧
    ((Binary64.ofNat 0).le s.pathPolicy.decay = true ∧ s.pathPolicy.decay.le (.ofNat 1) = true) ∧
    ((Binary64.ofNat 0).le s.pathPolicy.switchPenalty = true ↔
      s.pathPolicy.switchPenalty.isNaN = false) ∧
    (1 ≤ s.traversal.maxAutoSteps ∧ 1 ≤ s.lanes.buffer ∧ 1 ≤ s.lanes.idleTimeout ∧
      1 ≤ s.lanes.graphCache) ∧
    (s.pathPolicy.lockThreshold.lt (.ofNat (2 ^ 53)) = true →
      (s.pathPolicy.LocksInTheEnd ↔ s.pathPolicy.switchPenalty.isFinite = true)) := by
  obtain ⟨hthreshold, hdecay, hpenalty, hcounts⟩ := check_eq_ok_iff.1 h
  have hzero : (Binary64.ofNat 0).isNaN = false := Binary64.isNaN_ofNat (Nat.zero_le _)
  have hpositive := Binary64.lt_iff_not_le (x := s.pathPolicy.lockThreshold) hzero
  have hnonneg := Binary64.le_iff_not_lt (x := s.pathPolicy.switchPenalty) hzero
  rw [hthreshold, eq_self, and_true] at hpositive
  rw [hpenalty, eq_self, and_true] at hnonneg
  refine ⟨hpositive, hdecay, hnonneg, hcounts, fun hcountable => ?_⟩
  exact PolicySettings.locksInTheEnd_iff (hpositive.2 (Binary64.isNaN_of_lt hcountable)) hcountable

namespace Samples

/-- The standard settings are accepted, and with them any path can be locked. -/
theorem standard_bounds :
    ({} : Settings).check = .ok () ∧ (Binary64.ofNat 0).lt
      ({} : Settings).pathPolicy.lockThreshold = true ∧
      ({} : Settings).pathPolicy.LocksInTheEnd := by
  have h : ({} : Settings).check = .ok () := by decide +kernel
  obtain ⟨hpositive, -, -, -, hlocks⟩ := Settings.bounds_of_check {} h
  exact ⟨h, hpositive.2 (by decide +kernel), (hlocks (by decide +kernel)).2 (by decide +kernel)⟩

/-- The standard settings, with a threshold that is no number. -/
def boundless : Settings where
  pathPolicy := { PolicySettings.standard with lockThreshold := .nan }

/-- The standard settings, with an infinite penalty. -/
def unforgiving : Settings where
  pathPolicy := { PolicySettings.standard with switchPenalty := .infinity false }

/-- A threshold that is no number is accepted, and so is an infinite penalty, with which no path is
ever locked. -/
theorem unfit_accepted :
    (boundless.check = .ok () ∧ (Binary64.ofNat 0).lt boundless.pathPolicy.lockThreshold = false) ∧
      unforgiving.check = .ok () ∧ unforgiving.pathPolicy.lockThreshold.lt
        (.ofNat (2 ^ 53)) = true ∧
      ∀ n, (unforgiving.pathPolicy.tally "left" n).locked? = none := by
  refine ⟨⟨by decide +kernel, by decide +kernel⟩, by decide +kernel, by decide +kernel, fun n => ?_⟩
  exact PathState.locked?_eq_none (PolicySettings.steady_tally (by decide +kernel) "left" n).open_

end Samples

end Parley
