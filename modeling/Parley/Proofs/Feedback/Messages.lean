import Parley.Feedback.Basic
import Parley.Proofs.Checked
import Parley.Proofs.Feedback.Placeholders

/-!
# What the user is told

A failure is told in one message that depends on its kind only.  After a success the drafts whose
placeholders are all known are told, filled in; the first of the others gives way to the summary,
and the rest of them are left out.

* `fillDrafts_of_recorded`, `fillDrafts_of_unknown`: drafts before and after the first one with
  something unknown;
* `Tells`, `reconcile_success_iff`: what is told of a success;
* `reconcile_tells`: what is told of any result.
-/

namespace Parley.ActionResult

open Draft

variable {details : Dict String} {drafts before after texts messages : List String} {draft : String}

/-- A draft and the message that is made of it. -/
def IsFilled (details : Dict String) (draft message : String) : Prop :=
  Fills details draft.toList message.toList

/-- The messages that tell of a success.  Without drafts there is the summary.  Otherwise each draft
is filled in, in order, as long as all its placeholders are known; the first draft with another one
gives way to the summary, and later ones of that kind are left out. -/
inductive Tells (details : Dict String) : List String → List String → Prop
  | undrafted : Tells details [] [summary details]
  | filled {drafts messages : List String} (hdrafts : drafts ≠ [])
      (h : List.Forall₂ (IsFilled details) drafts messages) : Tells details drafts messages
  | summarized {before after messages later : List String} {draft : String}
      (hbefore : List.Forall₂ (IsFilled details) before messages)
        (hdraft : ¬ IsRecorded details draft)
      (hafter : List.Forall₂ (IsFilled details)
          (after.filter fun d => IsRecorded details d) later) :
      Tells details (before ++ draft :: after) (messages ++ summary details :: later)

/-! ### Drafts in order -/

theorem fill?_eq_none_iff : fill? details draft = none ↔ ¬ IsRecorded details draft := by
  rw [isRecorded_iff, not_exists, Option.eq_none_iff_forall_ne_some]

/-- Drafts that are made messages of one by one can be filled in. -/
theorem forall_isRecorded (h : List.Forall₂ (IsFilled details) drafts messages) :
    ∀ d ∈ drafts, IsRecorded details d := by
  intro d hd
  obtain ⟨message, -, hmessage⟩ := exists_of_forall₂_right h.flip hd
  exact isRecorded_iff.2 ⟨message, fill?_eq_some_iff.2 hmessage⟩

theorem forall₂_isFilled_iff (h : ∀ d ∈ drafts, IsRecorded details d) :
    List.Forall₂ (IsFilled details) drafts messages ↔
      messages = drafts.filterMap (fill? details) := by
  induction drafts generalizing messages with
  | nil => rw [List.forall₂_nil_left_iff, List.filterMap_nil]
  | cons d r ih =>
    obtain ⟨hd, hr⟩ := List.forall_mem_cons.1 h
    obtain ⟨text, htext⟩ := isRecorded_iff.1 hd
    rw [List.filterMap_cons_some htext, List.forall₂_cons_left_iff]
    constructor
    · rintro ⟨message, rest, hmessage, hrest, rfl⟩
      rw [← (ih hr).1 hrest, ← Option.some.inj (htext.symm.trans (fill?_eq_some_iff.2 hmessage))]
    · rintro rfl
      exact ⟨text, _, fill?_eq_some_iff.1 htext, (ih hr).2 rfl, rfl⟩

/-- Once there is a summary, only drafts that can be filled in count. -/
theorem fillDrafts_summarized (drafts : List String) :
    fillDrafts details true drafts = drafts.filterMap (fill? details) := by
  induction drafts with
  | nil => rfl
  | cons d r ih => cases h : fill? details d <;> simp [fillDrafts, h, ih]

theorem filterMap_filter_isRecorded (drafts : List String) :
    (drafts.filter fun d => IsRecorded details d).filterMap (fill? details) =
      drafts.filterMap (fill? details) := by
  rw [List.filterMap_filter]
  refine List.filterMap_congr fun d _ => ?_
  by_cases hd : IsRecorded details d
  · simp [hd]
  · simp [hd, fill?_eq_none_iff.2 hd]

/-- Drafts that can be filled in are told in front of what the other ones come to. -/
theorem fillDrafts_of_recorded (h : ∀ d ∈ before, IsRecorded details d) (after : List String) :
    fillDrafts details false (before ++ after) = before.filterMap (fill? details) ++
      fillDrafts details false after := by
  induction before with
  | nil => rfl
  | cons d r ih =>
    obtain ⟨hd, hr⟩ := List.forall_mem_cons.1 h
    obtain ⟨text, htext⟩ := isRecorded_iff.1 hd
    simp [fillDrafts, htext, ih hr]

/-- The first draft that names something unknown gives way to the summary. -/
theorem fillDrafts_of_unknown (h : ¬ IsRecorded details draft) (after : List String) :
    fillDrafts details false (draft :: after) = summary details ::
      after.filterMap (fill? details) := by
  simp [fillDrafts, fill?_eq_none_iff.2 h, fillDrafts_summarized]

/-! ### Results -/

/-- Either all drafts can be filled in, or there is a first one that cannot. -/
theorem recorded_cases (details : Dict String) (drafts : List String) :
    (∀ d ∈ drafts, IsRecorded details d) ∨
      ∃ before draft after, drafts = before ++ draft :: after ∧
        (∀ d ∈ before, IsRecorded details d) ∧
        ¬ IsRecorded details draft := by
  induction drafts with
  | nil => exact .inl (List.forall_mem_nil _)
  | cons d r ih =>
    by_cases hd : IsRecorded details d
    · rcases ih with hall | ⟨before, draft, after, rfl, hbefore, hdraft⟩
      · exact .inl (List.forall_mem_cons.2 ⟨hd, hall⟩)
      · exact .inr ⟨d :: before, draft, after, rfl, List.forall_mem_cons.2 ⟨hd, hbefore⟩, hdraft⟩
    · exact .inr ⟨[], d, r, rfl, List.forall_mem_nil _, hd⟩

theorem reconcile_of_tells (h : Tells details drafts messages) :
    (success details).reconcile drafts = messages := by
  cases h with
  | undrafted => rfl
  | filled hdrafts h =>
    have hall := forall_isRecorded h
    have hfilled := fillDrafts_of_recorded hall []
    rw [List.append_nil, fillDrafts, List.append_nil] at hfilled
    rw [reconcile, if_neg (by simpa using hdrafts), hfilled, (forall₂_isFilled_iff hall).1 h]
  | @summarized before after messages later draft hbefore hdraft hafter =>
    have hall := forall_isRecorded hbefore
    have hlater := (forall₂_isFilled_iff (forall_isRecorded hafter)).1 hafter
    rw [filterMap_filter_isRecorded] at hlater
    rw [reconcile, if_neg (by simp), fillDrafts_of_recorded hall,
      fillDrafts_of_unknown hdraft, hlater, (forall₂_isFilled_iff hall).1 hbefore]

theorem exists_tells (details : Dict String) (drafts : List String) :
    ∃ messages, Tells details drafts messages := by
  rcases recorded_cases details drafts with hall | ⟨before, draft, after, rfl, hbefore, hdraft⟩
  · by_cases hdrafts : drafts = []
    · subst hdrafts
      exact ⟨_, .undrafted⟩
    · exact ⟨_, .filled hdrafts ((forall₂_isFilled_iff hall).2 rfl)⟩
  · have hafter : ∀ d ∈ after.filter fun d => IsRecorded details d, IsRecorded details d := by
      simp
    exact ⟨_, .summarized ((forall₂_isFilled_iff hbefore).2 rfl) hdraft
      ((forall₂_isFilled_iff hafter).2 rfl)⟩

theorem reconcile_success_iff : (success details).reconcile drafts = messages ↔
    Tells details drafts messages := by
  constructor
  · rintro rfl
    obtain ⟨messages, h⟩ := exists_tells details drafts
    rwa [reconcile_of_tells h]
  · exact reconcile_of_tells

theorem Tells.ne_nil (h : Tells details drafts messages) : messages ≠ [] := by
  cases h with
  | undrafted => exact List.cons_ne_nil _ _
  | filled hdrafts h =>
    rintro rfl
    exact hdrafts (List.forall₂_nil_right_iff.1 h)
  | summarized => simp

/-- **A failure is told in one message that depends on nothing but its kind; of a success the drafts
are told as far as they can be filled in; and something is always told.** -/
theorem reconcile_tells (drafts : List String) :
    (∀ kind, ∃ message, ∀ reason drafts, (failure kind reason).reconcile drafts = [message]) ∧
      (∀ details messages, (success details).reconcile drafts = messages ↔
        Tells details drafts messages) ∧
      ∀ result : ActionResult, result.reconcile drafts ≠ [] := by
  refine ⟨fun kind => ⟨kind.explanation, fun _ _ => rfl⟩, fun _ _ => reconcile_success_iff,
    fun result => ?_⟩
  cases result with
  | failure kind reason => exact List.cons_ne_nil _ _
  | success details => exact (reconcile_success_iff.1 rfl).ne_nil

/-- Details may hold braces, and braces may stand around a placeholder. -/
example : (success [("flow", "\x7bversion\x7d"), ("version", "3")]).reconcile
    ["\x7b\x7bflow\x7d\x7d \x7b", "\x7bFlow\x7d\x7bversion", "\x7bwho\x7d", "v\x7bversion\x7d"] =
      ["\x7b\x7bversion\x7d\x7d \x7b", "\x7bFlow\x7d\x7bversion",
        "Your changes to \x7bversion\x7d are live as version 3.", "v3"] := by
  rfl

end Parley.ActionResult
