import Parley.Json.Reader
import Parley.Proofs.Checked
import Parley.Proofs.Json.Written

/-!
# The first members of a document

Whatever follows the first members of an object, a document of it begins with them, and a record
that is read from it has their values.

* `Document.Begins`, `ofTokens_begins`: the document of a text that goes on;
* `parse_begins`: the document of a written object;
* `both_eq_ok`, `field_eq_ok`: fields of records.
-/

namespace Parley.Json

namespace Document

/-- An object whose first members are these. -/
def Begins (base : List (String × Document)) (d : Document) : Prop :=
  ∃ members stop, d = .object members stop ∧ base <+: members

/-- The outermost container being read is an object whose first members, the last of them first, are
these. -/
inductive Rooted (base : List (String × Document)) : List Frame → Place → Prop
  | nextKey {members : List (String × Document)} : base <:+ members →
      Rooted base [] (.nextKey members)
  | colon {members : List (String × Document)} {key : String} : base <:+ members →
      Rooted base [] (.colon members key)
  | afterMember {members : List (String × Document)} : base <:+ members →
      Rooted base [] (.afterMember members)
  | inside {inner : List Frame} {members : List (String × Document)} {key : String} {p : Place} :
      base <:+ members → Rooted base (inner ++ [.object members key]) p

variable {base members : List (String × Document)} {key : String}
    {inner stack : List Frame} {p : Place}

theorem begins_reverse (h : base <:+ members) (stop : Option Fault) :
    Begins base.reverse (.object members.reverse stop) :=
  ⟨members.reverse, stop, rfl, List.reverse_prefix.2 h⟩

theorem closeAll_begins (h : base <:+ members) (d : Document) :
    Begins base.reverse (closeAll (inner ++ [.object members key]) d) := by
  induction inner generalizing d with
  | nil => exact begins_reverse (h.trans (List.suffix_cons _ _)) none
  | cons f r ih =>
    cases f with
    | array items => exact ih _
    | object members' key' => exact ih _

/-- Where the text breaks off, the document still begins with these members. -/
theorem cut_begins (f : Fault) (h : Rooted base stack p) : Begins base.reverse (cut stack f p) := by
  cases h with
  | nextKey h => exact begins_reverse h _
  | colon h => exact begins_reverse (h.trans (List.suffix_cons _ _)) none
  | afterMember h => exact begins_reverse h _
  | inside h => cases p <;> exact closeAll_begins h _

/-- A step that keeps the first members: the document is done and begins with them, or reading goes
on. -/
def Keeps (base : List (String × Document)) (next : Document ⊕ (List Frame × Place)) : Prop :=
  (∃ d, next = .inl d ∧ Begins base.reverse d) ∨ ∃ stack p, next = .inr (stack, p) ∧
    Rooted base stack p

theorem keeps_finish (h : base <:+ members) (d : Document) :
    Keeps base (finish d (inner ++ [.object members key])) := by
  cases inner with
  | nil => exact .inr ⟨_, _, rfl, .afterMember (h.trans (List.suffix_cons _ _))⟩
  | cons f r =>
    cases f with
    | array items => exact .inr ⟨_, _, rfl, .inside h⟩
    | object members' key' => exact .inr ⟨_, _, rfl, .inside h⟩

theorem keeps_push (h : base <:+ members) (f : Frame) (p : Place) :
    Keeps base (.inr (f :: (inner ++ [.object members key]), p)) :=
  .inr ⟨_, _, rfl, List.cons_append .. ▸ .inside h⟩

/-- A token inside of the outermost object does not touch its first members. -/
theorem step_inside {t : Token} {next : Document ⊕ (List Frame × Place)} (h : base <:+ members)
    (hstep : step (inner ++ [.object members key]) p t = some next) : Keeps base next := by
  have hstay : ∀ p', Keeps base (.inr (inner ++ [.object members key], p')) :=
    fun p' => .inr ⟨_, _, rfl, .inside h⟩
  unfold step at hstep
  split at hstep
  case h_1 | h_2 | h_3 | h_4 | h_9 | h_11 | h_15 =>
    cases hstep
    exact keeps_finish h _
  case h_8 | h_13 =>
    cases hstep
    exact keeps_push h _ _
  case h_10 | h_12 | h_14 =>
    cases hstep
    exact hstay _
  case h_5 =>
    split_ifs at hstep
    cases hstep
    exact keeps_push h _ _
  case h_6 =>
    split_ifs at hstep
    cases hstep
    exact hstay _
  case h_7 =>
    -- a closed array stands inside, since the outermost container is an object
    cases inner with
    | nil => cases hstep
    | cons f r =>
      cases f with
      | array items =>
        cases hstep
        exact keeps_finish h _
      | object members' key' => cases hstep
  case h_16 => cases hstep

/-- A token keeps the first members. -/
theorem step_rooted {t : Token} {next : Document ⊕ (List Frame × Place)} (h : Rooted base stack p)
    (hstep : step stack p t = some next) : Keeps base next := by
  cases h with
  | nextKey h =>
    cases t with
    | string s =>
      cases s with
      | none => cases hstep
      | some s =>
        cases hstep
        exact .inr ⟨_, _, rfl, .colon h⟩
    | _ => cases hstep
  | colon h =>
    cases t with
    | colon =>
      cases hstep
      exact .inr ⟨_, _, rfl, @Rooted.inside base [] _ _ _ h⟩
    | _ => cases hstep
  | afterMember h =>
    cases t with
    | comma =>
      cases hstep
      exact .inr ⟨_, _, rfl, .nextKey h⟩
    | closeObject =>
      cases hstep
      exact .inl ⟨_, rfl, begins_reverse h none⟩
    | _ => cases hstep
  | inside h => exact step_inside h hstep

/-- **What follows the first members does not change them.** -/
theorem ofTokens_begins (ts : List Token) (e : Ending) (h : Rooted base stack p) :
    Begins base.reverse (ofTokens ts e stack p).1 := by
  induction ts generalizing stack p with
  | nil => exact cut_begins _ h
  | cons t ts ih =>
    unfold ofTokens
    cases hstep : step stack p t with
    | none => exact cut_begins _ h
    | some next =>
      rcases step_rooted h hstep with ⟨d, rfl, hd⟩ | ⟨stack', p', rfl, hr⟩
      · exact hd
      · exact ih hr

/-- A written object that begins with a text and a whole number, and goes on. -/
theorem parse_begins (k s k' : String) {n : Nat} (hn : n ≤ maxSignificand) (m : String × Json)
    (ms : List (String × Json)) :
    Begins [(k, .string (some s)), (k', .number (some (.int n)))]
      (parse (compact (.object ((k, .string s) :: (k', .nat n) :: m :: ms))).toList).1 := by
  obtain ⟨tail, htext⟩ : ∃ tail : List Char,
      (compact (.object ((k, .string s) :: (k', .nat n) :: m :: ms))).toList =
        '\x7b' :: ((stringText k).toList ++ ':' :: ((stringText s).toList ++ ',' ::
          ((stringText k').toList ++ ':' :: ((toString n).toList ++ ',' :: tail)))) := by
    refine ⟨(",".intercalate (compactMembers (m :: ms))).toList ++ ['\x7d'], ?_⟩
    obtain ⟨k'', j⟩ := m
    have hnat : compact (.nat n) = toString n := by
      simp [compact, Json.nat, numberText, Number.text?]
    simp [compact, compactMembers, String.intercalate_cons_cons, hnat]
  have hends : EndsNumber (',' :: tail) := by
    intro c r h
    cases h
    decide
  rw [parse, htext, scan_punctuation rfl, scan_stringText, scan_punctuation rfl, scan_stringText,
    scan_punctuation rfl, scan_stringText, scan_punctuation rfl, scan_nat hn hends,
      scan_punctuation rfl]
  have hmembers : Rooted [(k', .number (some (.int n))), (k, .string (some s))] []
      (.afterMember [(k', .number (some (.int n))), (k, .string (some s))]) :=
    .afterMember List.suffix_rfl
  exact ofTokens_begins (Token.comma :: (Token.scan tail).1) (Token.scan tail).2 hmembers

end Document

/-! ### Fields of records -/

section Records

variable {α β : Type}

theorem both_eq_ok {f : Located (α → β)} {a : Located α} {b : β} :
    Located.both f a = .ok b ↔ ∃ g x, f = .ok g ∧ a = .ok x ∧ g x = b := by
  cases f <;> cases a <;> simp [Located.both]

/-- A field is read from the first member with its name. -/
theorem field_eq_ok {name : String} {r : Reader α} {missing : Bool → Option α}
    {fs : Fields} {i : Nat} {d : Document} {x : α} (hfind : fs.find? name = some (i, d))
    (h : (Record.field name r missing).read fs = .ok x) :
    r d = .ok x := by
  simp only [Record.field, hfind] at h
  exact mapError_eq_ok.1 h

theorem ofMembers_eq_ok {r : Record α} {members : List (String × Document)}
    {stop : Option Fault} {x : α} (h : r.ofMembers members stop = .ok x) :
    r.read ⟨members, false⟩ = .ok x := by
  obtain ⟨g, y, hlayout, hread, rfl⟩ := both_eq_ok.1 (mapError_eq_ok.1 h)
  obtain ⟨u, -, rfl⟩ := map_eq_ok.1 hlayout
  exact hread

theorem reader_eq_ok {r : Record α} {members : List (String × Document)}
    {stop : Option Fault} {x : α} (h : r.reader (.object members stop) = .ok x) :
    r.read ⟨members, false⟩ = .ok x := ofMembers_eq_ok h

theorem objectReader_eq_ok {r : Record α} {members : List (String × Document)}
    {stop : Option Fault} {x : α} (h : r.objectReader (.object members stop) = .ok x) :
    r.read ⟨members, false⟩ = .ok x := ofMembers_eq_ok h

end Records

end Parley.Json
