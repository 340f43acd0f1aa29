import Mathlib
import Parley.Feedback.Draft
import Parley.Proofs.Collections

/-!
# Placeholders in drafts

A placeholder is a name in braces.  Two of them never overlap, since no brace stands inside one; so
the placeholders of a text are found from left to right, and every other character, be it a brace,
stands for itself.

* `IsName`, `braced`, `Mentions`: the placeholders of a text;
* `scan_braced`, `scan_cons`: the scanner goes placeholder by placeholder, and otherwise character
  by character;
* `induction_placeholders`: induction along a text;
* `Fills`, `fill?_eq_some_iff`: texts with details in place;
* `isRecorded_iff`: a text can be filled in exactly if all its placeholders are known.
-/

namespace Parley.Draft

/-- A name of small letters, digits and underscores that does not start with a digit. -/
def IsName (cs : List Char) : Prop :=
  ∃ c r, cs = c :: r ∧ isNameStart c = true ∧ ∀ d ∈ r, isNameChar d = true

/-- A name in braces. -/
def braced (name : List Char) : List Char := '{' :: (name ++ ['}'])

/-- No placeholder stands at the front of a text. -/
def StartsPlain (cs : List Char) : Prop := ∀ name, IsName name → ¬ braced name <+: cs

/-- A placeholder of this name stands somewhere in a text. -/
def Mentions (cs name : List Char) : Prop := IsName name ∧ braced name <:+: cs

variable {cs r rest read name other out : List Char} {c : Char} {details : Dict String}

/-! ### Names -/

theorem isNameChar_of_isNameStart (h : isNameStart c = true) : isNameChar c = true := by
  rw [isNameChar, h, Bool.true_or]

theorem IsName.ne_nil (h : IsName name) : name ≠ [] := by
  obtain ⟨c, r, rfl, -⟩ := h
  exact List.cons_ne_nil c r

theorem IsName.isNameChar (h : IsName name) : ∀ d ∈ name, isNameChar d = true := by
  obtain ⟨c, r, rfl, hc, hr⟩ := h
  exact List.forall_mem_cons.2 ⟨isNameChar_of_isNameStart hc, hr⟩

theorem IsName.ne_brace (h : IsName name) {d : Char} (hd : d ∈ name) : d ≠ '{' ∧ d ≠ '}' := by
  have hchar := h.isNameChar d hd
  refine ⟨?_, ?_⟩ <;>
  · rintro rfl
    cases hchar

/-- A character goes on a name exactly if the two together are one. -/
theorem continuesName_iff (hread : read = [] ∨ IsName read.reverse) :
    continuesName read c = true ↔ IsName (read.reverse ++ [c]) := by
  cases read with
  | nil =>
    simp only [continuesName, List.isEmpty_nil, if_true, List.reverse_nil, List.nil_append]
    constructor
    · exact fun hc => ⟨c, [], rfl, hc, nofun⟩
    · rintro ⟨d, r, hcons, hd, -⟩
      cases hcons
      exact hd
  | cons d r =>
    have hname : IsName (d :: r).reverse := hread.resolve_left (List.cons_ne_nil d r)
    simp only [continuesName, List.isEmpty_cons, Bool.false_eq_true, if_false]
    obtain ⟨e, s, hs, he, hall⟩ := hname
    rw [hs]
    constructor
    · exact fun hc =>
        ⟨e, s ++ [c], rfl, he, List.forall_mem_append.2 ⟨hall, List.forall_mem_singleton.2 hc⟩⟩
    · rintro ⟨f, t, hcons, -, ht⟩
      cases hcons
      exact ht c (by simp)

theorem IsName.of_append (h : IsName (name ++ other)) (hne : name ≠ []) : IsName name := by
  obtain ⟨c, r, hcons, hc, hr⟩ := h
  cases name with
  | nil => exact absurd rfl hne
  | cons d name =>
    cases hcons
    exact ⟨c, name, rfl, hc, fun d hd => hr d (List.mem_append_left other hd)⟩

/-! ### What is scanned -/

@[simp] theorem scan_none_nil : scan none [] = [] := rfl

@[simp] theorem scan_some_nil : scan (some read) [] = plain read := rfl

theorem scan_none_cons :
    scan none (c :: r) = if c = '{' then scan (some []) r else .char c :: scan none r := rfl

theorem scan_some_cons : scan (some read) (c :: r) =
    if c = '}' ∧ !read.isEmpty then .placeholder read.reverse :: scan none r
    else if continuesName read c then scan (some (c :: read)) r
    else if c = '{' then plain read ++ scan (some []) r
    else plain read ++ .char c :: scan none r := rfl

/-- A name that has been read in part is read to its end. -/
theorem scan_name (h : IsName (read.reverse ++ name)) :
    scan (some read) (name ++ '}' :: rest) = .placeholder (read.reverse ++ name) ::
      scan none rest := by
  induction name generalizing read with
  | nil =>
    rw [List.append_nil] at h
    have hread : read ≠ [] := fun hnil => h.ne_nil (List.reverse_eq_nil_iff.2 hnil)
    simp [scan_some_cons, hread]
  | cons d name ih =>
    have hd : d ≠ '}' := (h.ne_brace (by simp)).2
    rw [List.append_cons] at h
    have hcontinues : continuesName read d = true := by
      refine (continuesName_iff ?_).2 (h.of_append (by simp))
      by_cases hread : read = []
      · exact .inl hread
      · rw [List.append_assoc] at h
        exact .inr (h.of_append (by simpa using hread))
    have hname : IsName ((d :: read).reverse ++ name) := by simpa using h
    simpa [scan_some_cons, hd, hcontinues] using ih hname

/-- **A placeholder is found where it stands.** -/
theorem scan_braced (h : IsName name) :
    scan none (braced name ++ rest) = .placeholder name :: scan none rest := by
  have hempty : IsName ([].reverse ++ name) := h
  simpa [braced, scan_none_cons] using scan_name hempty

theorem scan_cons_of_ne (hc : c ≠ '{') : scan none (c :: r) = .char c :: scan none r := by
  rw [scan_none_cons, if_neg hc]

/-- What was read after a brace stands for itself if it does not go on to a placeholder. -/
theorem scan_some (hread : read = [] ∨ IsName read.reverse)
    (h : ∀ t, IsName (read.reverse ++ t) → ¬ t ++ ['}'] <+: cs) :
    scan (some read) cs = plain read ++ scan none cs := by
  induction cs generalizing read with
  | nil => simp
  | cons c r ih =>
    have hclose : ¬ (c = '}' ∧ (!read.isEmpty) = true) := by
      rintro ⟨rfl, hne⟩
      have hname : IsName read.reverse := hread.resolve_left (by simpa using hne)
      exact h [] (by simpa using hname) (by simp)
    rw [scan_some_cons, if_neg hclose]
    by_cases hc : continuesName read c = true
    · have hname := (continuesName_iff hread).1 hc
      rw [if_pos hc, ih (.inr (by simpa using hname)), scan_cons_of_ne (hname.ne_brace (by simp)).1]
      · simp [plain]
      · intro t ht hprefix
        refine h (c :: t) (by simpa using ht) ?_
        rw [List.cons_append, List.prefix_cons_inj]
        exact hprefix
    · rw [if_neg hc]
      by_cases hopen : c = '{'
      · rw [if_pos hopen, hopen, scan_none_cons, if_pos rfl]
      · rw [if_neg hopen, scan_cons_of_ne hopen]

/-- **Where no placeholder stands, a character stands for itself.** -/
theorem scan_cons (h : StartsPlain (c :: r)) : scan none (c :: r) = .char c :: scan none r := by
  by_cases hopen : c = '{'
  · subst hopen
    rw [scan_none_cons, if_pos rfl, scan_some (.inl rfl)]
    · rfl
    · intro t ht hprefix
      refine h t ht ?_
      rw [braced, List.prefix_cons_inj]
      exact hprefix
  · exact scan_cons_of_ne hopen

/-- What holds of a text if it holds of what follows a placeholder, or else the first character. -/
theorem induction_placeholders {P : List Char → Prop} (nil : P [])
    (placeholder : ∀ name rest, IsName name → P rest → P (braced name ++ rest))
    (char : ∀ c r, StartsPlain (c :: r) → P r → P (c :: r)) (cs : List Char) : P cs := by
  match cs with
  | [] => exact nil
  | c :: r =>
    by_cases h : StartsPlain (c :: r)
    · exact char c r h (induction_placeholders nil placeholder char r)
    · unfold StartsPlain at h
      push Not at h
      obtain ⟨name, hname, rest, hrest⟩ := h
      have hlt : rest.length ≤ r.length := by
        have hlength := congrArg List.length hrest
        simp only [braced, List.length_append, List.length_cons] at hlength
        omega
      rw [← hrest]
      exact placeholder name rest hname (induction_placeholders nil placeholder char rest)
termination_by cs.length

/-! ### Texts with details in place -/

/-- A text with the detail in place of each placeholder; what is put in is not looked at again, and
all other text stays as it is. -/
inductive Fills (details : Dict String) : List Char → List Char → Prop
  | nil : Fills details [] []
  | placeholder {name rest out : List Char} {value : String} (hname : IsName name)
      (hvalue : details.get? (String.ofList name) = some value) (h : Fills details rest out) :
      Fills details (braced name ++ rest) (value.toList ++ out)
  | char {c : Char} {r out : List Char} (hplain : StartsPlain (c :: r)) (h : Fills details r out) :
      Fills details (c :: r) (c :: out)

/-- Every placeholder of a draft names a known detail. -/
def IsRecorded (details : Dict String) (draft : String) : Prop :=
  ∀ name, Mentions draft.toList name → ∃ value, details.get? (String.ofList name) = some value

/-- The characters of a text with details in place, if all of them are known. -/
def fillChars? (details : Dict String) (cs : List Char) : Option (List Char) :=
  ((scan none cs).mapM (Piece.fill? details)).map List.flatten

theorem fillChars?_braced (h : IsName name) : fillChars? details (braced name ++ rest) =
    (details.get? (String.ofList name)).bind fun value => (fillChars? details rest).map
    (value.toList ++ ·) := by
  rw [fillChars?, scan_braced h, List.mapM_cons]
  cases hvalue : details.get? (String.ofList name) with
  | none => simp [Piece.fill?, hvalue]
  | some value =>
    cases hrest : (scan none rest).mapM (Piece.fill? details)
        <;> simp [Piece.fill?, hvalue, fillChars?, hrest]

theorem fillChars?_cons (h : StartsPlain (c :: r)) :
    fillChars? details (c :: r) = (fillChars? details r).map (c :: ·) := by
  rw [fillChars?, scan_cons h, List.mapM_cons]
  cases hrest : (scan none r).mapM (Piece.fill? details) <;> simp [Piece.fill?, fillChars?, hrest]

theorem fillChars?_eq_some_iff : fillChars? details cs = some out ↔ Fills details cs out := by
  constructor
  · intro h
    induction cs using induction_placeholders generalizing out with
    | nil =>
      cases h
      exact .nil
    | placeholder name rest hname ih =>
      rw [fillChars?_braced hname, Option.bind_eq_some_iff] at h
      obtain ⟨value, hvalue, h⟩ := h
      obtain ⟨after, hafter, rfl⟩ := Option.map_eq_some_iff.1 h
      exact .placeholder hname hvalue (ih hafter)
    | char c r hplain ih =>
      rw [fillChars?_cons hplain, Option.map_eq_some_iff] at h
      obtain ⟨after, hafter, rfl⟩ := h
      exact .char hplain (ih hafter)
  · intro h
    induction h with
    | nil => rfl
    | placeholder hname hvalue _ ih => rw [fillChars?_braced hname, hvalue, ih]; rfl
    | char hplain _ ih => rw [fillChars?_cons hplain, ih]; rfl

/-- **A draft is filled in with details in place of its placeholders.** -/
theorem fill?_eq_some_iff {draft text : String} :
    fill? details draft = some text ↔ Fills details draft.toList text.toList := by
  rw [← fillChars?_eq_some_iff, fill?, fillChars?, pieces, Option.map_eq_some_iff,
    Option.map_eq_some_iff]
  refine exists_congr fun parts => and_congr_right fun _ => ?_
  rw [← String.toList_inj, String.toList_ofList]

/-! ### Which drafts can be filled in -/

/-- Text without an opening brace has no placeholder, not even one that goes on behind it. -/
theorem braced_infix_append (h : '{' ∉ cs) :
    braced name <:+: cs ++ rest ↔ braced name <:+: rest := by
  induction cs with
  | nil => rfl
  | cons c cs ih =>
    obtain ⟨hc, hcs⟩ := not_or.1 (mt List.mem_cons.2 h)
    rw [List.cons_append, List.infix_cons_iff, ih hcs, braced, List.cons_prefix_cons]
    simp [hc]

theorem mentions_braced (h : IsName name) :
    Mentions (braced name ++ rest) other ↔ other = name ∨ Mentions rest other := by
  have hopen : '{' ∉ name ++ ['}'] := by
    rw [List.mem_append, List.mem_singleton, not_or]
    exact ⟨fun hmem => (h.ne_brace hmem).1 rfl, by decide⟩
  -- a name is what stands in front of the first closing brace
  have htake {n : List Char} (hn : IsName n) (after : List Char) :
      (n ++ '}' :: after).takeWhile (· ≠ '}') = n := by
    refine (span_of_head (fun d hd => decide_eq_true (hn.ne_brace hd).2) ?_).1
    rintro d ⟨⟩
    rfl
  have hfront (hother : IsName other) : braced other <+: braced name ++ rest ↔ other = name := by
    constructor
    · rintro ⟨after, hafter⟩
      simp only [braced, List.cons_append, List.append_assoc, List.nil_append, List.cons.injEq,
        true_and] at hafter
      rw [← htake hother after, hafter, htake h]
    · rintro rfl
      exact List.prefix_append _ _
  rw [Mentions, Mentions]
  constructor
  · rintro ⟨hother, hinfix⟩
    rcases List.infix_cons_iff.1 (show _ <:+: '{' :: (name ++ ['}'] ++ rest) from hinfix) with
      hprefix | hrest
    · exact .inl ((hfront hother).1 hprefix)
    · exact .inr ⟨hother, (braced_infix_append hopen).1 hrest⟩
  · rintro (rfl | ⟨hother, hinfix⟩)
    · exact ⟨h, (List.prefix_append _ _).isInfix⟩
    · exact ⟨hother, hinfix.trans (List.suffix_append _ _).isInfix⟩

theorem mentions_cons (h : StartsPlain (c :: r)) : Mentions (c :: r) other ↔ Mentions r other := by
  rw [Mentions, Mentions]
  refine and_congr_right fun hother => ?_
  rw [List.infix_cons_iff, or_iff_right (h other hother)]

theorem exists_fillChars?_iff : (∃ out, fillChars? details cs = some out) ↔
    ∀ name, Mentions cs name → ∃ value, details.get? (String.ofList name) = some value := by
  induction cs using induction_placeholders with
  | nil =>
    refine iff_of_true ⟨[], rfl⟩ fun name hname => ?_
    have hnil := List.infix_nil.1 hname.2
    cases hnil
  | placeholder name rest hname ih =>
    simp only [fillChars?_braced hname, mentions_braced hname, forall_eq_or_imp, ← ih]
    cases details.get? (String.ofList name) <;> simp
  | char c r hplain ih =>
    simp only [fillChars?_cons hplain, mentions_cons hplain, ← ih]
    simp

/-- **A draft can be filled in exactly if every placeholder in it names a known detail.** -/
theorem isRecorded_iff {draft : String} :
    IsRecorded details draft ↔ ∃ text, fill? details draft = some text := by
  rw [IsRecorded, ← exists_fillChars?_iff]
  constructor
  · rintro ⟨out, hout⟩
    exact ⟨String.ofList out, fill?_eq_some_iff.2
      (by rw [String.toList_ofList]; exact fillChars?_eq_some_iff.1 hout)⟩
  · rintro ⟨text, htext⟩
    exact ⟨text.toList, fillChars?_eq_some_iff.2 (fill?_eq_some_iff.1 htext)⟩

instance (details : Dict String) (draft : String) : Decidable (IsRecorded details draft) :=
  decidable_of_iff ((fill? details draft).isSome = true)
    (by rw [isRecorded_iff, Option.isSome_iff_exists])

end Parley.Draft
