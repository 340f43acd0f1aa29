import Mathlib
import Parley.Conversation.Path
import Parley.Proofs.Collections

/-!
# Votes and the turns that gave them

While no path is locked, the votes for a path are at most the turns that signalled it: a signal adds
one vote, and all else that happens to votes makes them fewer.  The switches are the changes of mind
among the signals, as far as 32 bits count them.  So a path is locked only after as many signals as
its lock required; but when the count has wrapped around, a lock requires too few.

* `PolicySettings.after`: the state that a history of signals and silent turns leads to;
* `signals`, `changes`: the signals of a history, and how often they change;
* `PolicySettings.get?_castVote`, `PolicySettings.forall_castVote`: what happens to votes, whatever
  they are counted in;
* `PathState.Reflects`: what the state knows of its history;
* `PolicySettings.required_le_count`: votes are exact, and no path is locked before the count wraps
  around;
* `PolicySettings.locked_early`: a path that is locked when it has.
-/

namespace Parley

/-- The paths that a history of turns signals. -/
def signals (history : List (Option PathId)) : List PathId := history.filterMap id

/-- How often a path differs from the one before it. -/
def changes : List PathId → Nat
  | path :: next :: rest => (if next = path then 0 else 1) + changes (next :: rest)
  | _ => 0

theorem signals_concat_none (history : List (Option PathId)) :
    signals (history ++ [none]) = signals history := by
  simp [signals]

theorem signals_concat_some (history : List (Option PathId)) (path : PathId) :
    signals (history ++ [some path]) = signals history ++ [path] := by
  simp [signals]

theorem changes_concat (paths : List PathId) (path : PathId) :
    changes (paths ++ [path]) =
      if paths.getLast?.any (· ≠ path) then changes paths + 1 else changes paths := by
  induction paths with
  | nil => rfl
  | cons first rest ih =>
    cases rest with
    | nil => by_cases h : path = first <;> simp [changes, h, eq_comm]
    | cons next rest =>
      rw [List.cons_append, List.cons_append, changes, ← List.cons_append, ih, changes,
        List.getLast?_cons_cons]
      split_ifs <;> omega

/-- In 32 bits, too, the count goes up by one with each change. -/
theorem ofNat_changes_concat (paths : List PathId) (path : PathId) :
    UInt32.ofNat (changes (paths ++ [path])) =
      if paths.getLast?.any (· ≠ path) then UInt32.ofNat (changes paths) + 1
      else UInt32.ofNat (changes paths) := by
  rw [changes_concat, apply_ite UInt32.ofNat, UInt32.ofNat_add]
  rfl

/-! ### Votes -/

namespace PolicySettings

variable {ν : Type} [NatCast ν] [Add ν] [Mul ν] [Div ν] [LE ν] [DecidableLE ν]
    {p : PolicySettings ν}

omit [Add ν] in
theorem get?_decayVotes (p : PolicySettings ν) (path : PathId) (votes : Dict ν) :
    (p.decayVotes (some path) votes).get? path = votes.get? path := by
  induction votes with
  | nil => rfl
  | cons e votes ih =>
    obtain ⟨other, n⟩ := e
    simp only [decayVotes, Option.some.injEq] at ih ⊢
    by_cases hother : other = path
    · simp [Dict.get?, hother]
    · rw [List.map_cons, List.filter_cons, Dict.get?, if_neg hother]
      split_ifs
      · rw [Dict.get?, if_neg hother, ih]
      · exact ih

/-- A signal adds one vote to those that its path has. -/
theorem get?_castVote (p : PolicySettings ν) (path : PathId) (votes : Dict ν) :
    (p.castVote path votes).get? path =
      some ((votes.get? path).getD ((0 : Nat) : ν) + ((1 : Nat) : ν)) := by
  rw [castVote, Dict.get?_insert, if_pos rfl, get?_decayVotes]

variable {P : PathId × ν → Prop} (hdecay : ∀ path n, P (path, n) → P (path, n * p.decay))

include hdecay

omit [Add ν] in
theorem forall_decayVotes {votes : Dict ν} (h : ∀ e ∈ votes, P e) (keep : Option PathId) :
    ∀ e ∈ p.decayVotes keep votes, P e := by
  intro e he
  obtain ⟨e', he', rfl⟩ := List.mem_map.1 (List.mem_of_mem_filter he)
  dsimp only
  split
  · exact h e' he'
  · exact hdecay _ _ (h e' he')

theorem forall_castVote {votes : Dict ν} {path : PathId} (h : ∀ e ∈ votes, P e)
    (hpath : P (path, (votes.get? path).getD ((0 : Nat) : ν) + ((1 : Nat) : ν))) :
    ∀ e ∈ p.castVote path votes, P e := by
  intro e he
  rcases Dict.mem_insert he with rfl | he
  · rwa [get?_decayVotes]
  · exact forall_decayVotes hdecay h (some path) e he

end PolicySettings

theorem getD_get?_nonneg {votes : Dict ℚ} (h : ∀ e ∈ votes, 0 ≤ e.2) (path : PathId) :
    0 ≤ (votes.get? path).getD 0 := by
  cases hget : votes.get? path with
  | none => exact le_rfl
  | some n => exact h _ (Dict.mem_of_get? hget)

/-- No path has negative votes, or more than a bound for it. -/
def AtMost (bound : PathId → Nat) (votes : Dict ℚ) : Prop := ∀ e ∈ votes, 0 ≤ e.2 ∧ e.2 ≤ bound e.1

namespace AtMost

variable {bound : PathId → Nat} {votes : Dict ℚ}

theorem getD_get? (h : AtMost bound votes) (path : PathId) :
    (votes.get? path).getD 0 ≤ bound path := by
  cases hget : votes.get? path with
  | none => exact Nat.cast_nonneg _
  | some n => exact (h _ (Dict.mem_of_get? hget)).2

theorem mono (h : AtMost bound votes) {bound' : PathId → Nat}
    (hle : ∀ path, bound path ≤ bound' path) :
    AtMost bound' votes :=
  fun e he => ⟨(h e he).1, (h e he).2.trans (Nat.cast_le.2 (hle e.1))⟩

variable {p : PolicySettings ℚ}

theorem decayVotes (h : AtMost bound votes) (hnonneg : 0 ≤ p.decay) (hle : p.decay ≤ 1)
    (keep : Option PathId) :
    AtMost bound (p.decayVotes keep votes) := by
  refine PolicySettings.forall_decayVotes (fun path n hn => ?_) h keep
  exact ⟨mul_nonneg hn.1 hnonneg, (mul_le_of_le_one_right hn.1 hle).trans hn.2⟩

/-- A signal gives its path one vote more, and no other path any. -/
theorem castVote (h : AtMost bound votes) (hnonneg : 0 ≤ p.decay) (hle : p.decay ≤ 1)
    (path : PathId) :
    AtMost (fun q => if q = path then bound q + 1 else bound q) (p.castVote path votes) := by
  have hgrows : ∀ q, bound q ≤ if q = path then bound q + 1 else bound q := by
    intro q
    split
    · exact Nat.le_succ _
    · exact le_rfl
  refine PolicySettings.forall_castVote (fun path n hn => ?_) (h.mono hgrows) ?_
  · exact ⟨mul_nonneg hn.1 hnonneg, (mul_le_of_le_one_right hn.1 hle).trans hn.2⟩
  · have hcount := h.getD_get? path
    have hvotes := getD_get?_nonneg (fun e he => (h e he).1) path
    simp only [if_true]
    push_cast
    exact ⟨by linarith, by linarith⟩

end AtMost

/-! ### Histories -/

/-- A state in which no path is locked, as its history has it: the last signal is active, the
changes of mind are counted in 32 bits, and no path has more votes than turns. -/
structure PathState.Reflects (s : PathState ℚ) (history : List (Option PathId)) : Prop where
  open_ : s.isLocked = false
  active : s.active = (signals history).getLast?
  switches : s.switches = UInt32.ofNat (changes (signals history))
  votes : AtMost (fun path => history.count (some path)) s.votes

namespace PolicySettings

/-- The state that turns with these signals lead to, `none` being silence. -/
def after (p : PolicySettings ℚ) (history : List (Option PathId)) : PathState ℚ :=
  history.foldl (fun s signal => (p.observe s signal).1) {}

/-- Once a path is locked, nothing changes. -/
theorem observe_of_isLocked {ν : Type} [NatCast ν] [Add ν] [Mul ν] [Div ν] [LE ν] [DecidableLE ν]
    (p : PolicySettings ν) {s : PathState ν} (h : s.isLocked = true) (signal : Option PathId) :
    (p.observe s signal).1 = s := by
  cases signal <;> simp [observe, h]

variable {p : PolicySettings ℚ} {s : PathState ℚ} {history : List (Option PathId)} {path : PathId}

theorem after_concat (p : PolicySettings ℚ) (history : List (Option PathId))
    (signal : Option PathId) :
    p.after (history ++ [signal]) = (p.observe (p.after history) signal).1 :=
  List.foldl_concat ..

/-- A signal leads to a state that reflects it, but for the lock, and to a lock only with enough
votes. -/
theorem vote_reflects (hnonneg : 0 ≤ p.decay) (hle : p.decay ≤ 1) (hs : s.Reflects history)
    (path : PathId) :
    (p.vote s path).1.Reflects (history ++ [some path]) ∨
      (p.vote s path).1.locked? = some path ∧
        p.lockThreshold +
            p.switchPenalty * (changes (signals (history ++ [some path])) % 2 ^ 32 : ℕ) ≤
          (history ++ [some path]).count (some path) := by
  have hswitches : (if isSwitch s path then s.switches + 1 else s.switches) =
      UInt32.ofNat (changes (signals (history ++ [some path]))) := by
    rw [signals_concat_some, ofNat_changes_concat, isSwitch, hs.active, hs.switches]
  have hvotes : AtMost (fun q => (history ++ [some path]).count (some q))
      (p.castVote path s.votes) := by
    refine (hs.votes.castVote hnonneg hle path).mono fun q => ?_
    by_cases hq : q = path
    · simp [hq]
    · simp [hq, Ne.symm hq]
  unfold vote
  dsimp only
  rw [hswitches]
  split
  · rename_i hrequired
    rw [required, UInt32.toNat_ofNat'] at hrequired
    exact .inr ⟨rfl, hrequired.trans (hvotes.getD_get? path)⟩
  · refine .inl ⟨rfl, ?_, rfl, hvotes⟩
    rw [signals_concat_some, List.getLast?_concat]

/-- One turn: a state that reflects its history goes on doing so, or a path is locked with enough
votes. -/
theorem observe_reflects (hnonneg : 0 ≤ p.decay) (hle : p.decay ≤ 1) (hs : s.Reflects history)
    (signal : Option PathId) :
    (p.observe s signal).1.Reflects (history ++ [signal]) ∨
      ∃ path, (p.observe s signal).1.locked? = some path ∧
        p.lockThreshold + p.switchPenalty * (changes (signals (history ++ [signal])) % 2 ^ 32 : ℕ) ≤
          (history ++ [signal]).count (some path) := by
  have hopen : ¬ s.isLocked = true := by simp [hs.open_]
  cases signal with
  | none =>
    rw [observe, if_neg hopen]
    refine .inl ⟨hs.open_, ?_, ?_, ?_⟩
    · rw [signals_concat_none, hs.active]
    · rw [signals_concat_none, hs.switches]
    · refine (hs.votes.decayVotes hnonneg hle s.active).mono fun q => ?_
      simp
  | some path =>
    rw [observe, if_neg hopen]
    exact (vote_reflects hnonneg hle hs path).imp_right fun h => ⟨path, h⟩

/-- A whole history: while no path is locked, the state reflects it. -/
theorem after_reflects (hnonneg : 0 ≤ p.decay) (hle : p.decay ≤ 1)
    (history : List (Option PathId)) :
    (p.after history).isLocked = true ∨ (p.after history).Reflects history := by
  induction history using List.reverseRecOn with
  | nil => exact .inr ⟨rfl, rfl, rfl, fun e he => nomatch he⟩
  | append_singleton history signal ih =>
    rw [after_concat]
    rcases ih with hlocked | hs
    · exact .inl (by rwa [observe_of_isLocked _ hlocked])
    · rcases observe_reflects hnonneg hle hs signal with h | ⟨path, hpath, -⟩
      · exact .inr h
      · refine .inl (by_contra fun hopen => ?_)
        rw [PathState.locked?, if_neg hopen] at hpath
        cases hpath

/-- **No path is locked early**: a path that becomes locked has been signalled at least as often as
the threshold asks for, and the penalty for each change of mind that is in the count, which are all
of them as long as they fit into 32 bits. -/
theorem required_le_count (p : PolicySettings ℚ) (hnonneg : 0 ≤ p.decay) (hle : p.decay ≤ 1)
    (history : List (Option PathId)) (signal : Option PathId) (path : PathId)
    (hbefore : (p.after history).locked? ≠ some path)
    (hlocked : (p.after (history ++ [signal])).locked? = some path) :
    let changed := changes (signals (history ++ [signal]))
    let count := (history ++ [signal]).count (some path)
    p.lockThreshold + p.switchPenalty * (changed % 2 ^ 32 : ℕ) ≤ count ∧
      (changed < 2 ^ 32 → p.lockThreshold + p.switchPenalty * changed ≤ count) := by
  intro changed count
  suffices hcount : p.lockThreshold + p.switchPenalty * (changed % 2 ^ 32 : ℕ) ≤ count from
    ⟨hcount, fun hfits => by rwa [Nat.mod_eq_of_lt hfits] at hcount⟩
  rw [after_concat] at hlocked
  rcases after_reflects hnonneg hle history with h | hs
  · rw [observe_of_isLocked _ h] at hlocked
    exact absurd hlocked hbefore
  rcases observe_reflects hnonneg hle hs signal with h | ⟨path', hpath, hcount⟩
  · simp [PathState.locked?, h.open_] at hlocked
  · rw [hpath] at hlocked
    cases hlocked
    exact hcount

/-- The standard settings in exact numbers. -/
def standardExact : PolicySettings ℚ := ⟨2, 1 / 2, 1⟩

/-- One change of mind, and then the third signal for a path locks it. -/
theorem required_le_count_standard :
    let history := [some "left", some "right", none, some "right"]
    (standardExact.after history).locked? ≠ some "right" ∧
      (standardExact.after (history ++ [some "right"])).locked? = some "right" ∧
      standardExact.lockThreshold +
          standardExact.switchPenalty * changes (signals (history ++ [some "right"])) ≤
        (history ++ [some "right"]).count (some "right") := by
  intro history
  have hbefore : (standardExact.after history).locked? ≠ some "right" := by decide +kernel
  have hlocked : (standardExact.after (history ++ [some "right"])).locked? = some "right" := by
    decide +kernel
  obtain ⟨-, hcount⟩ :=
    standardExact.required_le_count (by decide +kernel) (by decide +kernel) _ _ _ hbefore hlocked
  exact ⟨hbefore, hlocked, hcount (by decide)⟩

/-! ### Signals to and fro -/

/-- Signals that go to and fro between two paths, and end where they began. -/
def toAndFro : ℕ → List (Option PathId)
  | 0 => [some "left"]
  | n + 1 => toAndFro n ++ [some "right"] ++ [some "left"]

theorem changes_toAndFro (n : ℕ) :
    changes (signals (toAndFro n)) = 2 * n ∧ (signals (toAndFro n)).getLast? = some "left" := by
  induction n with
  | zero => exact ⟨rfl, rfl⟩
  | succ n ih =>
    obtain ⟨hchanges, hlast⟩ := ih
    rw [toAndFro, signals_concat_some, signals_concat_some, changes_concat, changes_concat,
      List.getLast?_concat, List.getLast?_concat, hlast, hchanges]
    exact ⟨rfl, rfl⟩

theorem count_toAndFro (n : ℕ) : (toAndFro n).count (some "left") = n + 1 := by
  induction n with
  | zero => rfl
  | succ n ih => simp [toAndFro, ih]

/-- Settings that forget all votes but those for the path signalled last. -/
def forgetful : PolicySettings ℚ := ⟨2, 0, 1⟩

/-- One vote for the path signalled last, after so many changes of mind. -/
def oneVote (path : PathId) (switches : UInt32) : PathState ℚ :=
  ⟨some path, false, [(path, 1)], switches⟩

/-- A change of mind leaves one vote, which is too few for a lock. -/
theorem observe_oneVote {path other : PathId} (hne : other ≠ path) (switches : UInt32) :
    (forgetful.observe (oneVote path switches) (some other)).1 = oneVote other (switches + 1) := by
  have hswitch : isSwitch (oneVote path switches) other = true := by
    simp [isSwitch, oneVote, hne.symm]
  have hvotes : forgetful.castVote other (oneVote path switches).votes = [(other, 1)] := by
    simp [castVote, decayVotes, oneVote, forgetful, leastVotes, hne.symm, Dict.insert]
  have hshort : ¬ forgetful.required (oneVote other (switches + 1)) ≤
      (Dict.get? [(other, (1 : ℚ))] other).getD 0 := by
    rw [Dict.get?, if_pos rfl, Option.getD_some, required, not_le]
    have hnonneg : (0 : ℚ) ≤ (switches + 1).toNat := Nat.cast_nonneg _
    show (1 : ℚ) < 2 + 1 * (switches + 1).toNat
    linarith
  have hopen : ¬ (oneVote path switches).isLocked = true := Bool.false_ne_true
  rw [observe, if_neg hopen, vote, hswitch, hvotes]
  exact congrArg Prod.fst (if_neg hshort)

/-- The changes of mind wrap the count around. -/
theorem after_toAndFro (n : ℕ) :
    forgetful.after (toAndFro n) = oneVote "left" (UInt32.ofNat (2 * n)) := by
  induction n with
  | zero => decide +kernel
  | succ n ih =>
    rw [toAndFro, after_concat, after_concat, ih, observe_oneVote (by decide),
      observe_oneVote (by decide), Nat.mul_succ, UInt32.ofNat_add, add_assoc]
    rfl

/-- After `2 ^ 32` changes of mind nothing is left of their penalty: two signals in a row lock a
path, which has been signalled in half of all turns only. -/
theorem locked_early :
    let history := toAndFro (2 ^ 31)
    0 < forgetful.lockThreshold ∧ 0 ≤ forgetful.decay ∧ forgetful.decay ≤ 1 ∧
      0 ≤ forgetful.switchPenalty ∧
      (forgetful.after history).locked? ≠ some "left" ∧
      (forgetful.after (history ++ [some "left"])).locked? = some "left" ∧
      ¬ forgetful.lockThreshold +
          forgetful.switchPenalty * changes (signals (history ++ [some "left"])) ≤
        (history ++ [some "left"]).count (some "left") := by
  intro history
  have hafter : forgetful.after history = oneVote "left" 0 := after_toAndFro (2 ^ 31)
  obtain ⟨hchanges, hlast⟩ := changes_toAndFro (2 ^ 31)
  have hmore : changes (signals (history ++ [some "left"])) = 2 * 2 ^ 31 := by
    rw [signals_concat_some, changes_concat, hlast, hchanges]
    rfl
  have hcount : (history ++ [some "left"]).count (some "left") = 2 ^ 31 + 2 := by
    rw [List.count_append, count_toAndFro]
    rfl
  refine ⟨by decide +kernel, by decide +kernel, by decide +kernel, by decide +kernel, ?_, ?_, ?_⟩
  · rw [hafter]
    decide
  · rw [after_concat, hafter]
    decide +kernel
  · rw [hmore, hcount, forgetful]
    norm_num

end PolicySettings

end Parley
