import Parley.Pattern.CharSet
import Parley.Text.Blank
import Parley.Text.Category
import Parley.Text.Script
import Parley.Text.Word

/-!
# Named character sets

The sets behind `\d`, `\s` and `\w`, the bracketed names such as `[:alpha:]`, and character
properties by name.
-/

namespace Parley.Pattern

namespace CharSet

/-- Every character. -/
def all : CharSet := .compl (.ranges [])

def digit : CharSet := .ranges Text.decimalRanges

def blank : CharSet := .ranges Text.blankRanges

def word : CharSet := .ranges Text.wordRanges

end CharSet

def asciiDigitRanges : Text.Ranges := [(0x30, 0x39)]

def asciiBlankRanges : Text.Ranges := [(0x9, 0xd), (0x20, 0x20)]

def asciiWordRanges : Text.Ranges := [(0x30, 0x39), (0x41, 0x5a), (0x5f, 0x5f), (0x61, 0x7a)]

/-- The set of a bracketed name. -/
def bracketName? : String → Option Text.Ranges
  | "alnum" => some [(0x30, 0x39), (0x41, 0x5a), (0x61, 0x7a)]
  | "alpha" => some [(0x41, 0x5a), (0x61, 0x7a)]
  | "ascii" => some [(0x0, 0x7f)]
  | "blank" => some [(0x9, 0x9), (0x20, 0x20)]
  | "cntrl" => some [(0x0, 0x1f), (0x7f, 0x7f)]
  | "digit" => some asciiDigitRanges
  | "graph" => some [(0x21, 0x7e)]
  | "lower" => some [(0x61, 0x7a)]
  | "print" => some [(0x20, 0x7e)]
  | "punct" => some [(0x21, 0x2f), (0x3a, 0x40), (0x5b, 0x60), (0x7b, 0x7e)]
  | "space" => some asciiBlankRanges
  | "upper" => some [(0x41, 0x5a)]
  | "word" => some asciiWordRanges
  | "xdigit" => some [(0x30, 0x39), (0x41, 0x46), (0x61, 0x66)]
  | _ => none

/-- A property name without case, blanks, dashes and underscores. -/
def plainName (cs : List Char) : String :=
  let kept := (cs.map Char.toLower).filter fun c => !(Text.isBlank c || c = '_' || c = '-')
  match kept with
  | 'i' :: 's' :: c :: r => String.ofList (c :: r)
  | _ => String.ofList kept

/-- The characters for private use. -/
def privateRanges : Text.Ranges := [(0xe000, 0xf8ff), (0xf0000, 0xffffd), (0x100000, 0x10fffd)]

/-- The characters of the categories that are not C. -/
def graphicRanges : Text.Ranges :=
  Text.letterRanges ++ Text.markRanges ++ Text.numericRanges ++ Text.punctuationRanges ++
    Text.symbolRanges
    ++ Text.spaceRanges ++ [(0x2028, 0x2029)]

/-- The characters that have been given a meaning. -/
def assignedRanges : Text.Ranges :=
  graphicRanges ++ Text.controlRanges ++ Text.formatRanges ++ privateRanges

/-- The set of a general category. -/
def category? : String → Option CharSet
  | "l" | "letter" => some (.ranges Text.letterRanges)
  | "lu" | "uppercaseletter" => some (.ranges Text.upperRanges)
  | "ll" | "lowercaseletter" => some (.ranges Text.lowerRanges)
  | "lt" | "titlecaseletter" => some (.ranges Text.titleRanges)
  | "lc" | "casedletter" =>
      some (.ranges (Text.upperRanges ++ Text.lowerRanges ++ Text.titleRanges))
  | "lm" | "modifierletter" => some (.ranges Text.modifierLetterRanges)
  | "lo" | "otherletter" =>
      some (.diff (.ranges Text.letterRanges)
        (.ranges (Text.upperRanges ++ Text.lowerRanges ++ Text.titleRanges ++
          Text.modifierLetterRanges)))
  | "m" | "mark" | "combiningmark" => some (.ranges Text.markRanges)
  | "mn" | "nonspacingmark" =>
      some (.diff (.ranges Text.markRanges)
        (.ranges (Text.spacingMarkRanges ++ Text.enclosingMarkRanges)))
  | "mc" | "spacingmark" => some (.ranges Text.spacingMarkRanges)
  | "me" | "enclosingmark" => some (.ranges Text.enclosingMarkRanges)
  | "n" | "number" => some (.ranges Text.numericRanges)
  | "nd" | "decimalnumber" | "digit" => some .digit
  | "nl" | "letternumber" => some (.ranges Text.letterNumberRanges)
  | "no" | "othernumber" =>
      some (.diff (.ranges Text.numericRanges)
        (.ranges (Text.decimalRanges ++ Text.letterNumberRanges)))
  | "p" | "punctuation" | "punct" => some (.ranges Text.punctuationRanges)
  | "pc" | "connectorpunctuation" => some (.ranges Text.connectorPunctuationRanges)
  | "pd" | "dashpunctuation" => some (.ranges Text.dashRanges)
  | "ps" | "openpunctuation" => some (.ranges Text.openRanges)
  | "pe" | "closepunctuation" => some (.ranges Text.closeRanges)
  | "pi" | "initialpunctuation" => some (.ranges Text.initialRanges)
  | "pf" | "finalpunctuation" => some (.ranges Text.finalRanges)
  | "po" | "otherpunctuation" =>
      some (.diff (.ranges Text.punctuationRanges)
        (.ranges (Text.connectorPunctuationRanges ++ Text.dashRanges ++ Text.openRanges
          ++ Text.closeRanges ++ Text.initialRanges ++ Text.finalRanges)))
  | "s" | "symbol" => some (.ranges Text.symbolRanges)
  | "sm" | "mathsymbol" => some (.ranges Text.mathRanges)
  | "sc" | "currencysymbol" => some (.ranges Text.currencyRanges)
  | "sk" | "modifiersymbol" => some (.ranges Text.modifierSymbolRanges)
  | "so" | "othersymbol" =>
      some (.diff (.ranges Text.symbolRanges)
        (.ranges (Text.mathRanges ++ Text.currencyRanges ++ Text.modifierSymbolRanges)))
  | "z" | "separator" => some (.ranges (Text.spaceRanges ++ [(0x2028, 0x2029)]))
  | "zs" | "spaceseparator" => some (.ranges Text.spaceRanges)
  | "zl" | "lineseparator" => some (.ranges [(0x2028, 0x2028)])
  | "zp" | "paragraphseparator" => some (.ranges [(0x2029, 0x2029)])
  | "c" | "other" => some (.compl (.ranges graphicRanges))
  | "cc" | "control" | "cntrl" => some (.ranges Text.controlRanges)
  | "cf" | "format" => some (.ranges Text.formatRanges)
  | "co" | "privateuse" => some (.ranges privateRanges)
  | "cn" | "unassigned" => some (.compl (.ranges assignedRanges))
  | "assigned" => some (.ranges assignedRanges)
  | "any" => some .all
  | "ascii" => some (.ranges [(0x0, 0x7f)])
  | _ => none

/-- The set of a script. -/
def script? : String → Option CharSet
  | "latin" | "latn" => some (.ranges Text.latinRanges)
  | "greek" | "grek" => some (.ranges Text.greekRanges)
  | "cyrillic" | "cyrl" => some (.ranges Text.cyrillicRanges)
  | "han" | "hani" => some (.ranges Text.hanRanges)
  | "arabic" | "arab" => some (.ranges Text.arabicRanges)
  | "hebrew" | "hebr" => some (.ranges Text.hebrewRanges)
  | "hiragana" | "hira" => some (.ranges Text.hiraganaRanges)
  | "katakana" | "kana" => some (.ranges Text.katakanaRanges)
  | "thai" => some (.ranges Text.thaiRanges)
  | "hangul" | "hang" => some (.ranges Text.hangulRanges)
  | "devanagari" | "deva" => some (.ranges Text.devanagariRanges)
  | "armenian" | "armn" => some (.ranges Text.armenianRanges)
  | "georgian" | "geor" => some (.ranges Text.georgianRanges)
  | _ => none

/-- The set of a property that a character has or has not. -/
def binaryProperty? : String → Option CharSet
  | "alphabetic" | "alpha" => some (.ranges Text.alphabeticRanges)
  | "lowercase" | "lower" => some (.ranges Text.lowercaseRanges)
  | "uppercase" | "upper" => some (.ranges Text.uppercaseRanges)
  | "whitespace" | "wspace" | "space" => some .blank
  | _ => none

/-- The set of a property name, or of a property and its value. -/
def property? (cs : List Char) : Option CharSet :=
  let name := plainName (cs.takeWhile fun c => !(c = '=' || c = ':' || c = '!'))
  match cs.dropWhile fun c => !(c = '=' || c = ':' || c = '!') with
  | [] => (binaryProperty? name).or ((category? name).or (script? name))
  | '!' :: '=' :: value => (valueOf name (plainName value)).map .compl
  | '=' :: value | ':' :: value => valueOf name (plainName value)
  | _ => none
where
  /-- The set of a property with a value. -/
  valueOf (name value : String) : Option CharSet :=
    if name = "gc" ∨ name = "generalcategory" then category? value
    else if name = "sc" ∨ name = "script" ∨ name = "scx" ∨ name = "scriptextensions" then
      script? value
    else none

end Parley.Pattern
