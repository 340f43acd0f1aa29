import Mathlib
import Parley.Text.Split

/-!
# Texts that are split

The parts of a text with a separator are those before it and those behind it.  The heads of a text
are the text and the heads of what stands before the last separator in it.

* `splitOn_append`, `splitOn_of_notMem`: the parts of a text with and without the separator;
* `heads_append`, `mem_heads_iff`, `heads_total`, `heads_shorter`.
-/

namespace Parley.Text

variable {sep : Char} {cs r : List Char} {text front : String}

theorem splitOn_append (sep : Char) (p r : List Char) :
    splitOn sep (p ++ sep :: r) = splitOn sep p ++ splitOn sep r := by
  induction p with
  | nil => simp [splitOn]
  | cons c p ih =>
    rw [List.cons_append, splitOn, splitOn, ih]
    split
    · rfl
    · cases h : splitOn sep p with
      | nil => exact absurd h (splitOn_ne_nil sep p)
      | cons q qs => rfl

theorem splitOn_of_notMem (h : sep ∉ cs) : splitOn sep cs = [cs] := by
  induction cs with
  | nil => rfl
  | cons c cs ih =>
    obtain ⟨hc, hcs⟩ := not_or.1 (mt List.mem_cons.2 h)
    rw [splitOn, if_neg (Ne.symm hc), ih hcs]

/-! ### Heads -/

theorem heads_of_notMem (h : sep ∉ text.toList) : heads sep text = [text] := by
  simp [heads, splitOn_of_notMem h, joinWith]

/-- Before the last separator stand the heads of what is in front of it. -/
theorem heads_append (htext : text.toList = front.toList ++ sep :: r) (hr : sep ∉ r) :
    heads sep text = text :: heads sep front := by
  have hsplit : splitOn sep text.toList = splitOn sep front.toList ++ [r] := by
    rw [htext, splitOn_append, splitOn_of_notMem hr]
  have hall : String.ofList (joinWith sep (splitOn sep front.toList ++ [r])) = text := by
    rw [← hsplit, joinWith_splitOn, String.ofList_toList]
  simp only [heads, hsplit, List.length_append, List.length_singleton, List.range_succ_eq_map,
    List.map_cons, List.map_map, Nat.sub_zero]
  refine congrArg₂ List.cons ?_ (List.map_congr_left fun k _ => ?_)
  · rw [List.take_of_length_le (by simp), hall]
  · rw [Function.comp_apply, Nat.succ_eq_add_one, Nat.add_sub_add_right,
      List.take_append_of_le_length (Nat.sub_le _ _)]

/-- What holds of texts without the separator, and of those behind it if of what is in front, holds
of all. -/
theorem induction_heads {P : String → Prop} (sep : Char)
    (whole : ∀ text, sep ∉ text.toList → P text)
    (behind : ∀ front text r, text.toList = front.toList ++ sep :: r → sep ∉ r → P front → P text)
    (text : String) :
    P text := by
  by_cases h : sep ∈ text.toList
  · obtain ⟨r, p, hsplit, hr⟩ := List.eq_append_cons_of_mem (List.mem_reverse.2 h)
    have htext : text.toList = p.reverse ++ sep :: r.reverse := by
      rw [← List.reverse_reverse text.toList, hsplit]
      simp
    have hlt : p.length < text.toList.length := by
      rw [htext]
      simp
    refine behind (String.ofList p.reverse) text r.reverse ?_ (by simpa using hr)
      (induction_heads sep whole behind _)
    rw [String.toList_ofList, htext]
  · exact whole text h
termination_by text.toList.length
decreasing_by simpa using hlt

/-- The heads of a text are the text and what stands before a separator in it. -/
theorem mem_heads_iff {head : String} :
    head ∈ heads sep text ↔ head = text ∨ ∃ r, text.toList = head.toList ++ sep :: r := by
  induction text using induction_heads sep with
  | whole text h =>
    rw [heads_of_notMem h, List.mem_singleton]
    refine (or_iff_left ?_).symm
    rintro ⟨r, hr⟩
    exact h (by simp [hr])
  | behind front text r htext hr ih =>
    rw [heads_append htext hr, List.mem_cons, ih, htext]
    refine or_congr_right ⟨?_, ?_⟩
    · rintro (rfl | ⟨r', hr'⟩)
      · exact ⟨r, rfl⟩
      · exact ⟨r' ++ sep :: r, by rw [hr', List.append_assoc, List.cons_append]⟩
    · rintro ⟨r', hr'⟩
      -- of two cuts at separators the last one is not before the other
      rcases List.append_eq_append_iff.1 hr' with ⟨q, hq, hq'⟩ | ⟨q, hq, hq'⟩
      · cases q with
        | nil => exact .inl (String.toList_inj.1 (by simpa using hq))
        | cons c q =>
          cases hq'
          exact absurd (List.mem_append_right _ List.mem_cons_self) hr
      · cases q with
        | nil => exact .inl (String.toList_inj.1 (by simpa using hq.symm))
        | cons c q =>
          cases hq'
          exact .inr ⟨q, hq⟩

/-- Of two heads of a text one is a head of the other. -/
theorem heads_total {head head' : String} (h : head ∈ heads sep text)
    (h' : head' ∈ heads sep text) :
    head ∈ heads sep head' ∨ head' ∈ heads sep head := by
  induction text using induction_heads sep with
  | whole text hnone =>
    rw [heads_of_notMem hnone, List.mem_singleton] at h h'
    exact .inl (mem_heads_iff.2 (.inl (h.trans h'.symm)))
  | behind front text r htext hr ih =>
    have hall := heads_append htext hr
    rcases List.mem_cons.1 (hall ▸ h) with rfl | hfront
    · exact .inr h'
    · rcases List.mem_cons.1 (hall ▸ h') with rfl | hfront'
      · exact .inl h
      · exact ih hfront hfront'

/-- The heads of a text get shorter. -/
theorem heads_shorter (sep : Char) (text : String) :
    (heads sep text).Pairwise fun h h' => h'.toList.length < h.toList.length := by
  induction text using induction_heads sep with
  | whole text h =>
    rw [heads_of_notMem h]
    exact List.pairwise_singleton _ _
  | behind front text r htext hr ih =>
    rw [heads_append htext hr, List.pairwise_cons]
    refine ⟨fun head hhead => ?_, ih⟩
    rw [htext, List.length_append, List.length_cons]
    rcases mem_heads_iff.1 hhead with rfl | ⟨r', hr'⟩
    · omega
    · rw [hr', List.length_append]
      omega

end Parley.Text
