/-!
# Splitting texts

`splitOn` cuts a text at every occurrence of a character; `joinWith` is its inverse.  `heads` are
the texts that end at such a cut.
-/

namespace Parley.Text

/-- The parts of a text between the occurrences of a character. -/
def splitOn (sep : Char) : List Char → List (List Char)
  | [] => [[]]
  | c :: r =>
      if c = sep then [] :: splitOn sep r
      else
        match splitOn sep r with
        | [] => [[c]]
        | p :: ps => (c :: p) :: ps

/-- Parts with a character between them. -/
def joinWith (sep : Char) : List (List Char) → List Char
  | [] => []
  | [p] => p
  | p :: r => p ++ sep :: joinWith sep r

/-- A text and what stands before each occurrence of a character in it, longest first. -/
def heads (sep : Char) (text : String) : List String :=
  let parts := splitOn sep text.toList
  (List.range parts.length).map fun k =>
    String.ofList (joinWith sep (parts.take (parts.length - k)))

theorem splitOn_ne_nil (sep : Char) (cs : List Char) : splitOn sep cs ≠ [] := by
  cases cs with
  | nil => simp [splitOn]
  | cons c r =>
    simp only [splitOn]
    split
    · simp
    · split <;> simp

theorem joinWith_splitOn (sep : Char) (cs : List Char) : joinWith sep (splitOn sep cs) = cs := by
  induction cs with
  | nil => rfl
  | cons c r ih =>
    have hne := splitOn_ne_nil sep r
    simp only [splitOn]
    split
    · rename_i h
      subst h
      cases hs : splitOn c r with
      | nil => exact absurd hs hne
      | cons p ps => simp [joinWith, ← hs, ih]
    · cases hs : splitOn sep r with
      | nil => exact absurd hs hne
      | cons p ps =>
        rw [hs] at ih
        cases ps <;> simp_all [joinWith]

end Parley.Text
