/-!
# Searching in texts

`occursIn` tells whether a text occurs in another one as a whole.
-/

namespace Parley.Text

/-- Whether a list occurs in another one without a gap. -/
def occursIn (needle : List Char) : List Char → Bool
  | [] => needle.isEmpty
  | c :: r => needle.isPrefixOf (c :: r) || occursIn needle r

end Parley.Text
