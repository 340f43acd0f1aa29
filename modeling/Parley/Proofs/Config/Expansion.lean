import Mathlib
import Parley.Config.Reference

/-!
# What becomes of references

References are found from left to right: the name of one goes up to the first closing brace, and
what is behind that brace is read on its own.  Where no reference stands a character stands for
itself, be it a dollar sign or a brace.  One kind of text is not expanded like this: where an
opening brace is never closed, the rest of the text is taken for a name, and if no variable has that
name a closing brace is put behind it.

* `IsName`, `StartsPlain`, `Expands`: texts with values in place of references;
* `pieces_written`, `pieces_opened`, `pieces_char`: how a text is read;
* `induction_references`: induction along a text;
* `EndsOpen`: the reference that a text does not close;
* `expand_expands_iff`.
-/

namespace Parley.Reference

/-- A name in a reference may hold all characters but the closing brace. -/
def IsName (name : List Char) : Prop := '}' ∉ name

/-- No reference stands at the front of a text. -/
def StartsPlain (cs : List Char) : Prop := ∀ name, IsName name → ¬ written name <+: cs

/-- A text with the values of variables in place of the references to them.  A reference to a
variable that is not set stays, and so does all other text; values are not looked at again. -/
inductive Expands (env : String → Option String) : List Char → List Char → Prop
  | nil : Expands env [] []
  | set {name rest out : List Char} {value : String} (hname : IsName name)
      (hvalue : env (String.ofList name) = some value) (h : Expands env rest out) :
      Expands env (written name ++ rest) (value.toList ++ out)
  | unset {name rest out : List Char} (hname : IsName name)
      (hnone : env (String.ofList name) = none) (h : Expands env rest out) :
      Expands env (written name ++ rest) (written name ++ out)
  | char {c : Char} {r out : List Char} (hplain : StartsPlain (c :: r)) (h : Expands env r out) :
      Expands env (c :: r) (c :: out)

/-- The beginning of a reference, up to the end of its name. -/
def opened (name : List Char) : List Char := '$' :: '{' :: name

/-- A text ends within a reference, whose name goes up to the end of the text.  Of several that are
opened there it is the first one. -/
structure EndsOpen (cs name : List Char) : Prop where
  isName : IsName name
  suffix : opened name <:+ cs
  first : ∀ other, IsName other → opened other <:+ cs → other.length ≤ name.length

variable {env : String → Option String} {cs r rest name other out : List Char} {c : Char}

/-! ### Reading a text -/

theorem written_append (name rest : List Char) :
    written name ++ rest = '$' :: '{' :: (name ++ '}' :: rest) := by
  simp [written]

theorem nameOf_append (h : IsName name) (rest : List Char) :
    nameOf (name ++ '}' :: rest) = name := by
  rw [nameOf, List.takeWhile_append_of_pos fun c hc => by simpa using ne_of_mem_of_not_mem hc h]
  simp

theorem afterName_append (h : IsName name) (rest : List Char) :
    afterName (name ++ '}' :: rest) = rest := by
  rw [afterName, List.dropWhile_append_of_pos fun c hc => by simpa using ne_of_mem_of_not_mem hc h]
  simp

/-- A reference is read where it stands. -/
theorem pieces_written (h : IsName name) (rest : List Char) :
    pieces (written name ++ rest) = .reference name true :: pieces rest := by
  rw [written_append, pieces, nameOf_append h, afterName_append h]
  simp

/-- A reference that is not closed has the rest of the text as its name. -/
theorem pieces_opened (h : IsName name) : pieces (opened name) = [.reference name false] := by
  have hall : ∀ c ∈ name, decide (c ≠ '}') = true := fun c hc => by
    simpa using ne_of_mem_of_not_mem hc h
  rw [opened, pieces, nameOf, afterName, List.takeWhile_eq_self_iff.2 hall,
    List.dropWhile_eq_nil_iff.2 hall]
  simpa [pieces, IsName] using h

theorem pieces_char (h : ¬ (c = '$' ∧ r.head? = some '{')) :
    pieces (c :: r) = .char c :: pieces r := by
  rw [pieces]
  rintro r' rfl rfl
  exact h ⟨rfl, rfl⟩

/-- What holds of a text if it holds of what follows a reference, or else the first character, and
of each reference that is not closed. -/
theorem induction_references {P : List Char → Prop} (nil : P [])
    (closed : ∀ name rest, IsName name → P rest → P (written name ++ rest))
    (open_ : ∀ name, IsName name → P (opened name))
    (char : ∀ c r, ¬ (c = '$' ∧ r.head? = some '{') → P r → P (c :: r)) (cs : List Char) :
    P cs := by
  induction cs using pieces.induct with
  | case1 r ih =>
    by_cases h : '}' ∈ r
    · obtain ⟨name, rest, rfl, hname⟩ := List.eq_append_cons_of_mem h
      rw [afterName_append hname] at ih
      rw [← written_append]
      exact closed name rest hname ih
    · exact open_ r h
  | case2 c r hne ih =>
    refine char c r ?_ ih
    rintro ⟨rfl, hr⟩
    cases r with
    | nil => cases hr
    | cons d r =>
      cases hr
      exact hne r rfl rfl
  | case3 => exact nil

/-! ### Texts with values in place -/

/-- Two references at the front of a text are the same one. -/
theorem written_append_inj (hname : IsName name) (hother : IsName other)
    (h : written other ++ r = written name ++ rest) : other = name ∧ r = rest := by
  rw [written_append, written_append, List.cons.injEq, List.cons.injEq] at h
  have hnames := congrArg nameOf h.2.2
  have hrests := congrArg afterName h.2.2
  rw [nameOf_append hname, nameOf_append hother] at hnames
  rw [afterName_append hname, afterName_append hother] at hrests
  exact ⟨hnames, hrests⟩

theorem expands_nil_iff : Expands env [] out ↔ out = [] := by
  constructor
  · intro hexpands
    generalize htext : [] = cs at hexpands
    cases hexpands with
    | nil => rfl
    | set | unset => simp [written] at htext
    | char => cases htext
  · rintro rfl
    exact .nil

/-- A reference becomes what the variable says, and the rest of the text is expanded on its own. -/
theorem expands_written_iff (h : IsName name) : Expands env (written name ++ rest) out ↔
    ∃ out', out = (Piece.reference name true).expansion env ++ out' ∧ Expands env rest out' := by
  constructor
  · intro hexpands
    generalize htext : written name ++ rest = cs at hexpands
    cases hexpands with
    | nil => simp [written] at htext
    | set hother hvalue hrest =>
      obtain ⟨rfl, rfl⟩ := written_append_inj hother h htext
      exact ⟨_, by rw [Piece.expansion, hvalue]; rfl, hrest⟩
    | unset hother hnone hrest =>
      obtain ⟨rfl, rfl⟩ := written_append_inj hother h htext
      exact ⟨_, by rw [Piece.expansion, hnone]; rfl, hrest⟩
    | char hplain => exact absurd ⟨rest, htext⟩ (hplain name h)
  · rintro ⟨out', rfl, hrest⟩
    rw [Piece.expansion]
    cases hvalue : env (String.ofList name) with
    | none => exact .unset h hvalue hrest
    | some value => exact .set h hvalue hrest

/-- Where no reference stands a character stays. -/
theorem expands_char_iff (h : StartsPlain (c :: r)) :
    Expands env (c :: r) out ↔ ∃ out', out = c :: out' ∧ Expands env r out' := by
  constructor
  · intro hexpands
    generalize htext : c :: r = cs at hexpands
    cases hexpands with
    | nil => cases htext
    | @set name rest _ _ hname => exact absurd ⟨rest, htext.symm⟩ (h name hname)
    | @unset name rest _ hname => exact absurd ⟨rest, htext.symm⟩ (h name hname)
    | char _ hrest =>
      cases htext
      exact ⟨_, rfl, hrest⟩
  · rintro ⟨out', rfl, hrest⟩
    exact .char h hrest

/-- There is one way to put values in place. -/
theorem Expands.unique {out' : List Char} (h : Expands env cs out) (h' : Expands env cs out') :
    out = out' := by
  induction h generalizing out' with
  | nil => exact (expands_nil_iff.1 h').symm
  | set hname hvalue _ ih =>
    obtain ⟨rest, rfl, hrest⟩ := (expands_written_iff hname).1 h'
    rw [Piece.expansion, hvalue, ih hrest]
    rfl
  | unset hname hnone _ ih =>
    obtain ⟨rest, rfl, hrest⟩ := (expands_written_iff hname).1 h'
    rw [Piece.expansion, hnone, ih hrest]
    rfl
  | char hplain _ ih =>
    obtain ⟨rest, rfl, hrest⟩ := (expands_char_iff hplain).1 h'
    rw [ih hrest]

theorem startsPlain_of_not_opens (h : ¬ (c = '$' ∧ r.head? = some '{')) : StartsPlain (c :: r) := by
  rintro name - ⟨rest, hrest⟩
  rw [written_append] at hrest
  cases hrest
  exact h ⟨rfl, rfl⟩

theorem startsPlain_of_isName (h : IsName cs) : StartsPlain cs := by
  rintro name - hstarts
  exact h (hstarts.subset (by simp [written]))

/-- A text in which no brace is closed holds no reference, so all of it stays. -/
theorem expands_of_isName_iff (h : IsName cs) : Expands env cs out ↔ out = cs := by
  induction cs generalizing out with
  | nil => exact expands_nil_iff
  | cons c r ih =>
    rw [expands_char_iff (startsPlain_of_isName h)]
    simp only [ih (List.not_mem_of_not_mem_cons h), exists_eq_right]

/-- If no variable is set, a text is expanded to itself and to nothing else. -/
theorem expands_of_unset_iff
    (h : ∀ piece ∈ pieces cs, ∀ name closed, piece = .reference name closed →
    env (String.ofList name) = none) : Expands env cs out ↔ out = cs := by
  induction cs using induction_references generalizing out with
  | nil => exact expands_nil_iff
  | closed name rest hname ih =>
    rw [pieces_written hname, List.forall_mem_cons] at h
    rw [expands_written_iff hname, Piece.expansion, h.1 name true rfl]
    simp only [ih h.2, Option.map_none, Option.getD_none, exists_eq_right]
  | open_ name hname => exact expands_of_isName_iff (by simpa [IsName, opened] using hname)
  | char c r hc ih =>
    rw [pieces_char hc, List.forall_mem_cons] at h
    rw [expands_char_iff (startsPlain_of_not_opens hc)]
    simp only [ih h.2, exists_eq_right]

/-! ### References that are not closed -/

/-- What is not closed is behind the last closing brace. -/
theorem suffix_append_iff (h : IsName cs) : cs <:+ r ++ '}' :: rest ↔ cs <:+ rest := by
  constructor
  · intro hsuffix
    rcases List.suffix_or_suffix_of_suffix hsuffix (List.suffix_append r ('}' :: rest)) with
      hinner | houter
    · rcases List.suffix_cons_iff.1 hinner with rfl | hrest
      · exact absurd List.mem_cons_self h
      · exact hrest
    · exact absurd (houter.subset List.mem_cons_self) h
  · intro hsuffix
    exact hsuffix.trans ((List.suffix_cons '}' rest).trans (List.suffix_append r _))

theorem isName_opened_iff : IsName (opened name) ↔ IsName name := by
  simp [IsName, opened]

/-- Two texts that are opened alike end within the same reference. -/
theorem EndsOpen.of_iff (h : ∀ other, IsName other → (opened other <:+ cs ↔ opened other <:+ r))
    (hends : EndsOpen cs name) : EndsOpen r name :=
  ⟨hends.isName, (h name hends.isName).1 hends.suffix,
    fun other hother hopened => hends.first other hother ((h other hother).2 hopened)⟩

theorem endsOpen_congr (h : ∀ other, IsName other → (opened other <:+ cs ↔ opened other <:+ r)) :
    EndsOpen cs name ↔ EndsOpen r name :=
  ⟨.of_iff h, .of_iff fun other hother => (h other hother).symm⟩

theorem endsOpen_written_iff : EndsOpen (written other ++ rest) name ↔ EndsOpen rest name := by
  refine endsOpen_congr fun name hname => ?_
  rw [written, List.append_assoc, List.singleton_append]
  exact suffix_append_iff (isName_opened_iff.2 hname)

theorem endsOpen_char_iff (h : ¬ (c = '$' ∧ r.head? = some '{')) :
    EndsOpen (c :: r) name ↔ EndsOpen r name := by
  refine endsOpen_congr fun name _ => ?_
  rw [List.suffix_cons_iff, or_iff_right]
  intro hopened
  cases hopened
  exact h ⟨rfl, rfl⟩

theorem endsOpen_opened_iff (h : IsName other) : EndsOpen (opened other) name ↔ name = other := by
  constructor
  · intro hends
    have hle := hends.first other h List.suffix_rfl
    have hsame := hends.suffix.eq_of_length_le (by simpa [opened] using hle)
    simpa [opened] using hsame
  · rintro rfl
    refine ⟨h, List.suffix_rfl, fun other _ hsuffix => ?_⟩
    simpa [opened] using hsuffix.length_le

/-! ### What is written in place of references -/

/-- The characters of a text after its references are replaced. -/
def expandChars (env : String → Option String) (cs : List Char) : List Char :=
  (pieces cs).flatMap (Piece.expansion env)

theorem toList_expand (env : String → Option String) (text : String) :
    (expand env text).toList = expandChars env text.toList :=
  String.toList_ofList

theorem expandChars_written (h : IsName name) (rest : List Char) :
    expandChars env (written name ++ rest) = (Piece.reference name true).expansion env ++
      expandChars env rest := by
  rw [expandChars, pieces_written h, List.flatMap_cons, expandChars]

theorem expandChars_char (h : ¬ (c = '$' ∧ r.head? = some '{')) :
    expandChars env (c :: r) = c :: expandChars env r := by
  rw [expandChars, pieces_char h, List.flatMap_cons, expandChars]
  rfl

theorem expandChars_opened (h : IsName name) :
    expandChars env (opened name) =
      ((env (String.ofList name)).map String.toList).getD (written name) := by
  rw [expandChars, pieces_opened h, List.flatMap_singleton, Piece.expansion]

/-- A reference that is not closed stays as it is only if its variable says so. -/
theorem expandChars_opened_eq_iff (h : IsName name) :
    expandChars env (opened name) = opened name ↔
      env (String.ofList name) = some (String.ofList (opened name)) := by
  rw [expandChars_opened h]
  cases env (String.ofList name) with
  | none =>
    refine iff_of_false (fun heq => ?_) nofun
    have hlength := congrArg List.length heq
    simp [written, opened] at hlength
  | some value => simp [← String.toList_inj]

theorem expands_expandChars_iff (cs : List Char) :
    Expands env cs (expandChars env cs) ↔
      ∀ name, EndsOpen cs name → env (String.ofList name) = some (String.ofList (opened name)) := by
  induction cs using induction_references with
  | nil =>
    refine iff_of_true (expands_nil_iff.2 (by simp [expandChars, pieces])) fun name hends => ?_
    have hlength := hends.suffix.length_le
    simp [opened] at hlength
  | closed name rest hname ih =>
    rw [expandChars_written hname, expands_written_iff hname]
    simp only [List.append_cancel_left_eq, exists_eq_left', endsOpen_written_iff, ih]
  | open_ name hname =>
    rw [expands_of_isName_iff (isName_opened_iff.2 hname), expandChars_opened_eq_iff hname]
    simp only [endsOpen_opened_iff hname, forall_eq]
  | char c r hc ih =>
    rw [expandChars_char hc, expands_char_iff (startsPlain_of_not_opens hc)]
    simp only [List.cons.injEq, true_and, exists_eq_left', endsOpen_char_iff hc, ih]

/-- A reference that is not closed is one of the references of its text. -/
theorem EndsOpen.mem_pieces (h : EndsOpen cs name) : .reference name false ∈ pieces cs := by
  induction cs using induction_references with
  | nil =>
    have hlength := h.suffix.length_le
    simp [opened] at hlength
  | closed other rest hother ih =>
    rw [pieces_written hother]
    exact List.mem_cons_of_mem _ (ih (endsOpen_written_iff.1 h))
  | open_ other hother =>
    rw [pieces_opened hother, (endsOpen_opened_iff hother).1 h]
    exact List.mem_singleton_self _
  | char c r hc ih =>
    rw [pieces_char hc]
    exact List.mem_cons_of_mem _ (ih ((endsOpen_char_iff hc).1 h))

theorem mem_names_of_mem_pieces {text : String} {closed : Bool}
    (h : .reference name closed ∈ pieces text.toList) :
    String.ofList name ∈ names text :=
  List.mem_filterMap.2 ⟨_, h, rfl⟩

/-- **Expansion replaces the references to variables that are set, and nothing else**, unless the
text ends within a reference and the variable of that name does not happen to stand for the
beginning of the reference itself.  So a text without references to variables that are set is
returned unchanged exactly if it does not end within a reference. -/
theorem expand_expands_iff (env : String → Option String) (text : String) :
    ((∀ out, Expands env text.toList out ↔ out = (expand env text).toList) ↔
      ∀ name, EndsOpen text.toList name →
        env (String.ofList name) = some (String.ofList (opened name))) ∧
    ((∀ name ∈ names text, env name = none) →
      (expand env text = text ↔ ∀ name, ¬ EndsOpen text.toList name)) := by
  have hexpands := @expands_expandChars_iff env text.toList
  rw [← toList_expand] at hexpands
  refine ⟨Iff.trans ?_ hexpands, fun hunset => ?_⟩
  · exact ⟨fun h => (h _).2 rfl, fun h out => ⟨fun h' => h'.unique h, fun heq => heq ▸ h⟩⟩
  · have hself : Expands env text.toList (expand env text).toList ↔
        (expand env text).toList = text.toList := by
      refine expands_of_unset_iff fun piece hpiece name closed hname => hunset _ ?_
      exact mem_names_of_mem_pieces (hname ▸ hpiece)
    rw [← String.toList_inj, ← hself, hexpands]
    refine forall_congr' fun name => imp_congr_right fun hends => ?_
    rw [hunset _ (mem_names_of_mem_pieces hends.mem_pieces)]
    simp

end Parley.Reference

/-! ### References in a settings file -/

namespace Parley.Samples

open Reference

/-- A settings file with two references, one of them to a variable that is not set and with another
one in its name. -/
def excerpt : String := "path = \"$\x7bHOST\x7d/$$\x7bA$\x7bHOST\x7d\x7d\"  # costs $5 \x7d"

/-- A settings file that ends within a reference. -/
def unclosedExcerpt : String := "[store]\npath = \"$\x7bDATABASE\"\n"

/-- The value of a variable may look like a reference. -/
def environment : String → Option String
  | "HOST" => some "$\x7bA\x7d"
  | _ => none

theorem excerpt_expands :
    (∀ name, ¬ EndsOpen excerpt.toList name) ∧
      (∀ out, Expands environment excerpt.toList out ↔ out = (expand environment excerpt).toList) ∧
      expand environment excerpt =
        "path = \"$\x7bA\x7d/$$\x7bA$\x7bHOST\x7d\x7d\"  # costs $5 \x7d" ∧
      expand (fun _ => none) excerpt = excerpt := by
  have hclosed (name : List Char) : ¬ EndsOpen excerpt.toList name := by
    intro hends
    have hlast : excerpt.toList = excerpt.toList.dropLast ++ '}' :: [] := by decide +kernel
    have hsuffix := hends.suffix
    rw [hlast, suffix_append_iff (isName_opened_iff.2 hends.isName), List.suffix_nil] at hsuffix
    cases hsuffix
  refine ⟨hclosed, ?_, by decide +kernel, ?_⟩
  · exact (expand_expands_iff environment excerpt).1.2 fun name hends => absurd hends (hclosed name)
  · exact ((expand_expands_iff (fun _ => none) excerpt).2 fun _ _ => rfl).2 hclosed

/-- A closing brace is put behind the end of the text, though no variable is set. -/
theorem unclosedExcerpt_changed :
    (∀ name ∈ names unclosedExcerpt, (fun _ => none : String → Option String) name = none) ∧
      expand (fun _ => none) unclosedExcerpt = "[store]\npath = \"$\x7bDATABASE\"\n\x7d" ∧
      ¬ Expands (fun _ => none) unclosedExcerpt.toList
        (expand (fun _ => none) unclosedExcerpt).toList := by
  have hexpand : expand (fun _ => none) unclosedExcerpt =
      "[store]\npath = \"$\x7bDATABASE\"\n\x7d" := by decide +kernel
  refine ⟨fun _ _ => rfl, hexpand, ?_⟩
  rw [hexpand, expands_of_isName_iff (by unfold IsName; decide +kernel)]
  decide +kernel

end Parley.Samples
