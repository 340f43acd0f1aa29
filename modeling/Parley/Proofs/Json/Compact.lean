import Parley.Proofs.Json.Faults
import Parley.Proofs.Json.Figures

/-!
# Compact texts read as documents

The text of a value is read token by token.  If it does not nest too deep, this leads to a document
like the value, with the numbers as they are read; otherwise the text breaks off at the first
bracket too many, and no reader takes it.  If the numbers read back, the document is that of the
value.

* `document`: what the text of a value is read as;
* `numbers`, `IsLegible`: values whose numbers read back;
* `Document.read_compact`: a value in the middle of a text;
* `Document.read_too_deep`: a value that nests too deep;
* `Reader.ofText_compact`: what is read from the text of a value;
* `Reader.ofText_compact_iff`: what is read if its numbers read back.
-/

namespace Parley.Json

mutual

/-- The numbers in a value. -/
def numbers : Json → List Number
  | .number n => [n]
  | .array items => numbersInItems items
  | .object members => numbersInMembers members
  | _ => []

def numbersInItems : List Json → List Number
  | [] => []
  | j :: r => numbers j ++ numbersInItems r

def numbersInMembers : List (String × Json) → List Number
  | [] => []
  | (_, j) :: r => numbers j ++ numbersInMembers r

end

/-- The text of each number in the value is that number. -/
def IsLegible (j : Json) : Prop := ∀ n ∈ j.numbers, n.ReadsBack

instance (j : Json) : Decidable j.IsLegible :=
  inferInstanceAs (Decidable (∀ n ∈ j.numbers, n.ReadsBack))

mutual

/-- What the text of a value is read as, if it does not nest too deep. -/
def document : Json → Document
  | .null => .null
  | .bool b => .bool b
  | .number n => n.document
  | .string s => .string (some s)
  | .array items => .array (documents items) none
  | .object members => .object (memberDocuments members) none

def documents : List Json → List Document
  | [] => []
  | j :: r => document j :: documents r

def memberDocuments : List (String × Json) → List (String × Document)
  | [] => []
  | (k, j) :: r => (k, document j) :: memberDocuments r

end

mutual

/-- If the numbers of a value read back, its text is read as the value. -/
theorem IsLegible.document_eq : ∀ {j : Json}, j.IsLegible → j.document = Document.ofJson j
  | .null, _ | .bool _, _ | .string _, _ => rfl
  | .number n, hj => Number.ReadsBack.document_eq (hj n (List.mem_singleton_self n))
  | .array items, hj => by rw [document, Document.ofJson, documents_eq hj]
  | .object members, hj => by rw [document, Document.ofJson, memberDocuments_eq hj]

theorem documents_eq : ∀ {items : List Json}, (∀ n ∈ numbersInItems items, n.ReadsBack) →
    documents items = Document.ofItems items
  | [], _ => rfl
  | j :: r, h => by
      obtain ⟨hfirst, hnext⟩ := List.forall_mem_append.1 h
      rw [documents, Document.ofItems, IsLegible.document_eq hfirst, documents_eq hnext]

theorem memberDocuments_eq :
    ∀ {members : List (String × Json)}, (∀ n ∈ numbersInMembers members, n.ReadsBack) →
      memberDocuments members = Document.ofMembers members
  | [], _ => rfl
  | (k, j) :: r, h => by
      obtain ⟨hfirst, hnext⟩ := List.forall_mem_append.1 h
      rw [memberDocuments, Document.ofMembers, IsLegible.document_eq hfirst,
        memberDocuments_eq hnext]

end

/-! ### Texts of containers -/

/-- The items after the first one. -/
def nextItems (items : List Json) : List Char := items.flatMap fun j => ',' :: (compact j).toList

/-- The members after the first one. -/
def nextMembers (members : List (String × Json)) : List Char :=
  members.flatMap fun m => ',' :: ((stringText m.1).toList ++ ':' :: (compact m.2).toList)

theorem nextItems_cons (j : Json) (items : List Json) (rest : List Char) :
    nextItems (j :: items) ++ rest = ',' :: ((compact j).toList ++ (nextItems items ++ rest)) := by
  simp [nextItems]

theorem nextMembers_cons (key : String) (j : Json) (members : List (String × Json))
    (rest : List Char) :
    nextMembers ((key, j) :: members) ++ rest =
      ',' :: ((stringText key).toList ++ ':' ::
        ((compact j).toList ++ (nextMembers members ++ rest))) := by
  simp [nextMembers]

theorem toList_compactItems (j : Json) (items : List Json) :
    (",".intercalate (compactItems (j :: items))).toList = (compact j).toList ++
      nextItems items := by
  induction items generalizing j with
  | nil => simp [compactItems, nextItems]
  | cons j' items ih =>
    have hnext := ih j'
    rw [compactItems] at hnext
    rw [compactItems, compactItems, String.intercalate_cons_cons, String.toList_append,
      String.toList_append, hnext]
    simp [nextItems]

theorem toList_compactMembers (m : String × Json) (members : List (String × Json)) :
    (",".intercalate (compactMembers (m :: members))).toList =
      (stringText m.1).toList ++ ':' :: ((compact m.2).toList ++ nextMembers members) := by
  induction members generalizing m with
  | nil => simp [compactMembers, nextMembers]
  | cons m' members ih =>
    have hnext := ih m'
    rw [compactMembers] at hnext
    rw [compactMembers, compactMembers, String.intercalate_cons_cons, String.toList_append,
      String.toList_append, hnext]
    simp [nextMembers]

theorem toList_compact_array (j : Json) (items : List Json) (rest : List Char) :
    (compact (.array (j :: items))).toList ++ rest =
      '[' :: ((compact j).toList ++ (nextItems items ++ ']' :: rest)) := by
  rw [compact, String.toList_append, String.toList_append, toList_compactItems]
  simp

theorem toList_compact_object (m : String × Json) (members : List (String × Json))
    (rest : List Char) :
    (compact (.object (m :: members))).toList ++ rest =
      '\x7b' :: ((stringText m.1).toList ++
        ':' :: ((compact m.2).toList ++ (nextMembers members ++ '\x7d' :: rest))) := by
  rw [compact, String.toList_append, String.toList_append, toList_compactMembers]
  simp

theorem endsNumber_nextItems (items : List Json) (rest : List Char) :
    EndsNumber (nextItems items ++ ']' :: rest) := by
  intro c r h
  cases items with
  | nil =>
    cases h
    decide
  | cons j items =>
    cases h
    decide

theorem endsNumber_nextMembers (members : List (String × Json)) (rest : List Char) :
    EndsNumber (nextMembers members ++ '\x7d' :: rest) := by
  intro c r h
  cases members with
  | nil =>
    cases h
    decide
  | cons m members =>
    cases h
    decide

/-! ### Reading on -/

namespace Document

/-- The document that is read from a place on. -/
def readFrom (cs : List Char) (stack : List Frame) (p : Place) : Document × Bool :=
  ofTokens (Token.scan cs).1 (Token.scan cs).2 stack p

/-- How reading goes on after a token: at the next place, or not at all. -/
def goOn (rest : List Char) : Document ⊕ (List Frame × Place) → Document × Bool
  | .inl d => (d, (Token.scan rest).1 ≠ [] || (Token.scan rest).2 ≠ .clean)
  | .inr (stack, p) => readFrom rest stack p

section Tokens

variable {cs rest : List Char} {t : Token} {stack : List Frame} {p : Place} {b : Bool}

theorem readFrom_of_step (hscan : Token.scan cs = (t :: (Token.scan rest).1, (Token.scan rest).2))
    {next : Document ⊕ (List Frame × Place)} (hstep : step stack p t = some next) :
    readFrom cs stack p = goOn rest next := by
  rw [readFrom, hscan, ofTokens, hstep]
  rcases next with d | ⟨stack', p'⟩ <;> rfl

theorem readFrom_of_refused
    (hscan : Token.scan cs = (t :: (Token.scan rest).1, (Token.scan rest).2))
    (hstep : step stack p t = none) : (readFrom cs stack p).1.fault? ≠ none := by
  rw [readFrom, hscan, ofTokens, hstep]
  exact fault?_cut stack .malformed p

variable {stack' : List Frame} {p' : Place} {d : Document} {c : Char}

theorem step_openArray (h : ¬ stack.length < maxDepth) :
    step stack (.value b) .openArray = none := by
  cases b <;> exact if_neg h

theorem step_openObject (h : ¬ stack.length < maxDepth) :
    step stack (.value b) .openObject = none := by
  cases b <;> exact if_neg h

/-- A single character that leads to another place. -/
theorem readFrom_punctuation (hc : punctuation? c = some t)
    (hstep : step stack p t = some (.inr (stack', p'))) :
    readFrom (c :: rest) stack p = readFrom rest stack' p' :=
  readFrom_of_step (scan_punctuation hc rest) hstep

/-- A key that leads to another place. -/
theorem readFrom_key (key : String)
    (hstep : step stack p (.string (some key)) = some (.inr (stack', p'))) :
    readFrom ((stringText key).toList ++ rest) stack p = readFrom rest stack' p' :=
  readFrom_of_step (scan_stringText key rest) hstep

/-- A single character that ends a document. -/
theorem readFrom_close (hc : punctuation? c = some t)
    (hstep : step stack p t = some (finish d stack')) :
    readFrom (c :: rest) stack p = goOn rest (finish d stack') :=
  readFrom_of_step (scan_punctuation hc rest) hstep

theorem readFrom_openArray (h : stack.length < maxDepth) :
    readFrom ('[' :: rest) stack (.value b) = readFrom rest (.array [] :: stack) (.value true) := by
  refine readFrom_punctuation (t := .openArray) rfl ?_
  cases b <;> exact if_pos h

theorem readFrom_openObject (h : stack.length < maxDepth) :
    readFrom ('\x7b' :: rest) stack (.value b) = readFrom rest stack .firstKey := by
  refine readFrom_punctuation (t := .openObject) rfl ?_
  cases b <;> exact if_pos h

/-- The key of a member and the colon after it. -/
theorem readFrom_firstKey (key : String) :
    readFrom ((stringText key).toList ++ ':' :: rest) stack .firstKey =
      readFrom rest (.object [] key :: stack) (.value false) :=
  calc readFrom ((stringText key).toList ++ ':' :: rest) stack .firstKey
    _ = readFrom (':' :: rest) stack (.colon [] key) := readFrom_key key rfl
    _ = readFrom rest (.object [] key :: stack) (.value false) :=
      readFrom_punctuation (t := .colon) rfl rfl

theorem readFrom_nextKey (key : String) (members : List (String × Document)) :
    readFrom (',' :: ((stringText key).toList ++ ':' :: rest)) stack (.afterMember members) =
      readFrom rest (.object members key :: stack) (.value false) :=
  calc readFrom (',' :: ((stringText key).toList ++ ':' :: rest)) stack (.afterMember members)
    _ = readFrom ((stringText key).toList ++ ':' :: rest) stack (.nextKey members) :=
        readFrom_punctuation (t := .comma) rfl rfl
    _ = readFrom (':' :: rest) stack (.colon members key) := readFrom_key key rfl
    _ = readFrom rest (.object members key :: stack) (.value false) :=
      readFrom_punctuation (t := .colon) rfl rfl

theorem readFrom_nextItem (items : List Document) :
    readFrom (',' :: rest) stack (.afterItem items) =
      readFrom rest (.array items :: stack) (.value false) :=
  readFrom_punctuation (t := .comma) rfl rfl

end Tokens

/-! ### Values in a text -/

mutual

/-- A value that does not nest too deep is read as its document, and reading goes on behind it. -/
theorem read_compact : ∀ {j : Json} {rest : List Char} {stack : List Frame} {b : Bool},
    EndsNumber rest → stack.length + j.document.depth ≤ maxDepth →
      readFrom ((compact j).toList ++ rest) stack (.value b) = goOn rest (finish (document j) stack)
  | .null, _, _, b, _, _ => by
      cases b <;> exact readFrom_of_step (t := .null) (scan_of_first rfl) rfl
  | .bool true, _, _, b, _, _ => by
      cases b <;> exact readFrom_of_step (t := .bool true) (scan_of_first rfl) rfl
  | .bool false, _, _, b, _, _ => by
      cases b <;> exact readFrom_of_step (t := .bool false) (scan_of_first rfl) rfl
  | .number n, _, stack, b, hrest, _ => by
      obtain ⟨t, hscan, hstep⟩ := n.scan_append hrest
      exact readFrom_of_step hscan (hstep stack b)
  | .string s, _, _, b, _, _ => by
      cases b <;> exact readFrom_of_step (scan_stringText s _) rfl
  | .array [], rest, stack, b, _, hdepth => by
      show readFrom ('[' :: ']' :: rest) stack (.value b) = _
      rw [readFrom_openArray (by simpa [document, documents, depth, depthItems] using hdepth)]
      exact readFrom_close (t := .closeArray) rfl rfl
  | .array (j :: items), rest, stack, b, _, hdepth => by
      have hdepth : stack.length + (max j.document.depth (depthItems (documents items)) + 1) ≤
          maxDepth := hdepth
      rw [toList_compact_array, readFrom_openArray (by omega),
        read_compact (endsNumber_nextItems items rest) (by rw [List.length_cons]; omega)]
      exact read_nextItems [document j] (by omega)
  | .object [], rest, stack, b, _, hdepth => by
      have hopen : stack.length < maxDepth := by
        simpa [document, memberDocuments, depth, depthMembers] using hdepth
      show readFrom ('\x7b' :: '\x7d' :: rest) stack (.value b) = _
      rw [readFrom_openObject hopen]
      exact readFrom_close (t := .closeObject) rfl rfl
  | .object ((key, j) :: members), rest, stack, b, _, hdepth => by
      have hdepth : stack.length +
          (max j.document.depth (depthMembers (memberDocuments members)) + 1) ≤ maxDepth :=
        hdepth
      rw [toList_compact_object, readFrom_openObject (by omega), readFrom_firstKey,
        read_compact (j := j) (endsNumber_nextMembers members rest)
          (by rw [List.length_cons]; omega)]
      exact read_nextMembers [(key, document j)] (by omega)

theorem read_nextItems :
    ∀ {items : List Json} {rest : List Char} {stack : List Frame} (acc : List Document),
      stack.length + 1 + depthItems (documents items) ≤ maxDepth →
      readFrom (nextItems items ++ ']' :: rest) stack (.afterItem acc) =
        goOn rest (finish (.array (acc.reverse ++ documents items) none) stack)
  | [], rest, stack, acc, _ => by
      rw [documents, List.append_nil]
      exact readFrom_close (t := .closeArray) rfl rfl
  | j :: items, rest, stack, acc, hdepth => by
      have hdepth : stack.length + 1 + max j.document.depth (depthItems (documents items)) ≤
          maxDepth := hdepth
      rw [nextItems_cons, readFrom_nextItem,
        read_compact (endsNumber_nextItems items rest) (by rw [List.length_cons]; omega)]
      refine (read_nextItems (document j :: acc) (by omega)).trans ?_
      rw [List.reverse_cons, List.append_assoc]
      rfl

theorem read_nextMembers :
    ∀ {members : List (String × Json)} {rest : List Char} {stack : List Frame}
      (acc : List (String × Document)),
      stack.length + 1 + depthMembers (memberDocuments members) ≤ maxDepth →
      readFrom (nextMembers members ++ '\x7d' :: rest) stack (.afterMember acc) =
        goOn rest (finish (.object (acc.reverse ++ memberDocuments members) none) stack)
  | [], rest, stack, acc, _ => by
      rw [memberDocuments, List.append_nil]
      exact readFrom_close (t := .closeObject) rfl rfl
  | (key, j) :: members, rest, stack, acc, hdepth => by
      have hdepth : stack.length + 1 + max j.document.depth
          (depthMembers (memberDocuments members)) ≤ maxDepth :=
        hdepth
      rw [nextMembers_cons, readFrom_nextKey,
        read_compact (endsNumber_nextMembers members rest) (by rw [List.length_cons]; omega)]
      refine (read_nextMembers ((key, document j) :: acc) (by omega)).trans ?_
      rw [List.reverse_cons, List.append_assoc]
      rfl

end

/-! ### Texts that nest too deep -/

mutual

/-- A value that nests too deep is not read to its end. -/
theorem read_too_deep : ∀ {j : Json} {rest : List Char} {stack : List Frame} {b : Bool},
    EndsNumber rest → stack.length ≤ maxDepth → maxDepth < stack.length + j.document.depth →
      (readFrom ((compact j).toList ++ rest) stack (.value b)).1.fault? ≠ none
  | .null, _, _, _, _, hstack, hdepth
  | .bool _, _, _, _, _, hstack, hdepth
  | .string _, _, _, _, _, hstack, hdepth =>
      absurd hdepth (Nat.not_lt_of_le hstack)
  | .number n, _, stack, _, _, hstack, hdepth => by
      rw [document, n.depth_document, Nat.add_zero] at hdepth
      exact absurd hdepth (Nat.not_lt_of_le hstack)
  | .array [], rest, stack, b, _, hstack, hdepth => by
      have hdepth : maxDepth < stack.length + (0 + 1) := hdepth
      exact readFrom_of_refused (scan_punctuation (c := '[') rfl (']' :: rest))
        (step_openArray (by omega))
  | .array (j :: items), rest, stack, b, _, hstack, hdepth => by
      have hdepth : maxDepth < stack.length +
          (max j.document.depth (depthItems (documents items)) + 1) := hdepth
      rw [toList_compact_array]
      by_cases hopen : stack.length < maxDepth
      · rw [readFrom_openArray hopen]
        by_cases hdeep : maxDepth < stack.length + 1 + j.document.depth
        · exact read_too_deep (endsNumber_nextItems items rest) hopen hdeep
        · rw [read_compact (endsNumber_nextItems items rest) (by rw [List.length_cons]; omega)]
          exact nextItems_too_deep [document j] hopen (by omega)
      · exact readFrom_of_refused (scan_punctuation (c := '[') rfl _) (step_openArray hopen)
  | .object [], rest, stack, b, _, hstack, hdepth => by
      have hdepth : maxDepth < stack.length + (0 + 1) := hdepth
      exact readFrom_of_refused (scan_punctuation (c := '\x7b') rfl ('\x7d' :: rest))
        (step_openObject (by omega))
  | .object ((key, j) :: members), rest, stack, b, _, hstack, hdepth => by
      have hdepth : maxDepth < stack.length +
          (max j.document.depth (depthMembers (memberDocuments members)) + 1) :=
        hdepth
      rw [toList_compact_object]
      by_cases hopen : stack.length < maxDepth
      · rw [readFrom_openObject hopen, readFrom_firstKey]
        by_cases hdeep : maxDepth < stack.length + 1 + j.document.depth
        · exact read_too_deep (endsNumber_nextMembers members rest) hopen hdeep
        · rw [read_compact (j := j) (endsNumber_nextMembers members rest)
            (by rw [List.length_cons]; omega)]
          exact nextMembers_too_deep [(key, document j)] hopen (by omega)
      · exact readFrom_of_refused (scan_punctuation (c := '\x7b') rfl _) (step_openObject hopen)

theorem nextItems_too_deep :
    ∀ {items : List Json} {rest : List Char} {stack : List Frame} (acc : List Document),
      stack.length < maxDepth → maxDepth < stack.length + 1 + depthItems (documents items) →
      (readFrom (nextItems items ++ ']' :: rest) stack (.afterItem acc)).1.fault? ≠ none
  | [], _, stack, _, hstack, hdepth =>
    absurd (show maxDepth < stack.length + 1 + 0 from hdepth) (by omega)
  | j :: items, rest, stack, acc, hstack, hdepth => by
      have hdepth : maxDepth <
          stack.length + 1 + max j.document.depth (depthItems (documents items)) := hdepth
      rw [nextItems_cons, readFrom_nextItem]
      by_cases hdeep : maxDepth < stack.length + 1 + j.document.depth
      · exact read_too_deep (endsNumber_nextItems items rest) hstack hdeep
      · rw [read_compact (endsNumber_nextItems items rest) (by rw [List.length_cons]; omega)]
        exact nextItems_too_deep (document j :: acc) hstack (by omega)

theorem nextMembers_too_deep :
    ∀ {members : List (String × Json)} {rest : List Char} {stack : List Frame}
      (acc : List (String × Document)),
      stack.length < maxDepth →
      maxDepth < stack.length + 1 + depthMembers (memberDocuments members) →
        (readFrom (nextMembers members ++ '\x7d' :: rest) stack (.afterMember acc)).1.fault? ≠ none
  | [], _, stack, _, hstack, hdepth =>
    absurd (show maxDepth < stack.length + 1 + 0 from hdepth) (by omega)
  | (key, j) :: members, rest, stack, acc, hstack, hdepth => by
      have hdepth : maxDepth <
          stack.length + 1 + max j.document.depth (depthMembers (memberDocuments members)) :=
        hdepth
      rw [nextMembers_cons, readFrom_nextKey]
      by_cases hdeep : maxDepth < stack.length + 1 + j.document.depth
      · exact read_too_deep (endsNumber_nextMembers members rest) hstack hdeep
      · rw [read_compact (endsNumber_nextMembers members rest) (by rw [List.length_cons]; omega)]
        exact nextMembers_too_deep ((key, document j) :: acc) hstack (by omega)

end

/-! ### Whole texts -/

variable {j : Json}

/-- **The document of the text of a value**, if it does not nest too deep. -/
theorem parse_compact (hdepth : j.document.depth ≤ maxDepth) :
    parse (compact j).toList = (document j, false) := by
  have hread : readFrom ((compact j).toList ++ []) [] (.value false) =
      goOn [] (finish (document j) []) :=
    read_compact nofun (by simpa using hdepth)
  rw [List.append_nil] at hread
  have hend : Token.scan [] = ([], .clean) := scan_of_stop rfl
  exact hread.trans (by simp [goOn, finish, hend])

theorem parse_too_deep (hdepth : maxDepth < j.document.depth) :
    (parse (compact j).toList).1.fault? ≠ none := by
  have hread : (readFrom ((compact j).toList ++ []) [] (.value false)).1.fault? ≠ none :=
    read_too_deep nofun (Nat.zero_le _) (by simpa using hdepth)
  rwa [List.append_nil] at hread

end Document

/-- **What is read from the text of a value**: what its document says, unless it nests too deep. -/
theorem Reader.ofText_compact {α : Type} {r : Reader α} (hr : r.Heeds) {j : Json} {a : α} :
    r.ofText j.compact = .ok a ↔ j.document.depth ≤ Document.maxDepth ∧ r j.document = .ok a := by
  unfold ofText
  by_cases hdepth : j.document.depth ≤ Document.maxDepth
  · rw [Document.parse_compact hdepth, and_iff_right hdepth]
    simp only [bind_eq_ok, Bool.false_eq_true, if_false, pure_eq_ok, exists_eq_right]
  · have hbroken := Document.parse_too_deep (not_le.1 hdepth)
    refine iff_of_false (fun h => ?_) fun h => hdepth h.1
    obtain ⟨a, ha, -⟩ := bind_eq_ok.1 h
    exact hbroken (hr _ a ha)

/-- If its numbers read back, the value itself is read. -/
theorem Reader.ofText_compact_iff {α : Type} {r : Reader α} (hr : r.Heeds) {j : Json}
    (hj : j.IsLegible) {a : α} :
    r.ofText j.compact = .ok a ↔ (Document.ofJson j).depth ≤ Document.maxDepth ∧
      r.ofJson j = .ok a := by
  rw [ofText_compact hr, hj.document_eq]
  rfl

end Parley.Json
