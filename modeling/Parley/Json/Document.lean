import Parley.Json.Token

/-!
# JSON documents

A `Document` is a JSON text as its reader meets it: members keep their order and may repeat, and a
text that breaks off is a document up to that place.  So a reader that goes through a document finds
the first fault of the text, whether the text is no JSON there or does not fit.

* `Document.parse`: the document of a text, and whether more follows it;
* `Document.ofJson`: a value as a document;
* `Document.fault?`: the first place at which a document breaks off;
* `Json.parse`: the value of a text.
-/

namespace Parley.Json

/-- A JSON text as its reader meets it.  `stop` tells how a container ends that is not closed. -/
inductive Document
  | null
  | bool (b : Bool)
  | number (n : Option Number)
  | string (s : Option String)
  | array (items : List Document) (stop : Option Fault)
  | object (members : List (String × Document)) (stop : Option Fault)
  | broken (f : Fault)
  deriving Inhabited

namespace Document

/-! ### From text -/

/-- A container around the place being read: what stands in it so far, last first. -/
inductive Frame
  | array (items : List Document)
  | object (members : List (String × Document)) (key : String)

/-- What may come next. -/
inductive Place
  | value (mayClose : Bool)
  | afterItem (items : List Document)
  | firstKey
  | nextKey (members : List (String × Document))
  | colon (members : List (String × Document)) (key : String)
  | afterMember (members : List (String × Document))

/-- Close the open containers around a document that breaks off. -/
def closeAll : List Frame → Document → Document
  | [], d => d
  | .array items :: r, d => closeAll r (.array ((d :: items).reverse) none)
  | .object members key :: r, d => closeAll r (.object (((key, d) :: members).reverse) none)

/-- The document that breaks off at a place. -/
def cut (stack : List Frame) (f : Fault) : Place → Document
  | .value _ => closeAll stack (.broken f)
  | .afterItem items => closeAll stack (.array items.reverse (some f))
  | .firstKey => closeAll stack (.object [] (some f))
  | .nextKey members => closeAll stack (.object members.reverse (some f))
  | .colon members key => closeAll stack (.object (((key, .broken f) :: members).reverse) none)
  | .afterMember members => closeAll stack (.object members.reverse (some f))

/-- The fault of a text that ends at a place: where no value and no key may start, the beginning of
one is as wrong as any other text. -/
def endFault (p : Place) : Ending → Fault
  | .clean => .truncated
  | .broken f inString =>
      match p with
      | .value _ => f
      | .firstKey | .nextKey _ => if inString then f else .malformed
      | _ => .malformed

/-- Containers nest at most this deep. -/
def maxDepth : Nat := 127

/-- What a finished document leads to: the next place in the container around it, or the end. -/
def finish (d : Document) : List Frame → Document ⊕ (List Frame × Place)
  | [] => .inl d
  | .array items :: r => .inr (r, .afterItem (d :: items))
  | .object members key :: r => .inr (r, .afterMember ((key, d) :: members))

/-- The effect of one token: the whole document, a refusal, or the next place. -/
def step (stack : List Frame) (p : Place) (t : Token) : Option (Document ⊕ (List Frame × Place)) :=
  match p, t with
  | .value _, .null => some (finish .null stack)
  | .value _, .bool b => some (finish (.bool b) stack)
  | .value _, .number n => some (finish (.number n) stack)
  | .value _, .string s => some (finish (.string s) stack)
  | .value _, .openArray =>
      if stack.length < maxDepth then some (.inr (.array [] :: stack, .value true)) else none
  | .value _, .openObject =>
      if stack.length < maxDepth then some (.inr (stack, .firstKey)) else none
  | .value true, .closeArray =>
      match stack with
      | .array items :: r => some (finish (.array items.reverse none) r)
      | _ => none
  | .afterItem items, .comma => some (.inr (.array items :: stack, .value false))
  | .afterItem items, .closeArray => some (finish (.array items.reverse none) stack)
  | .firstKey, .string (some s) => some (.inr (stack, .colon [] s))
  | .firstKey, .closeObject => some (finish (.object [] none) stack)
  | .nextKey members, .string (some s) => some (.inr (stack, .colon members s))
  | .colon members key, .colon => some (.inr (.object members key :: stack, .value false))
  | .afterMember members, .comma => some (.inr (stack, .nextKey members))
  | .afterMember members, .closeObject => some (finish (.object members.reverse none) stack)
  | _, _ => none

/-- Read tokens from a place on.  The flag tells whether more follows the document. -/
def ofTokens : List Token → Ending → List Frame → Place → Document × Bool
  | [], e, stack, p => (cut stack (endFault p e) p, false)
  | t :: ts, e, stack, p =>
      match step stack p t with
      | none => (cut stack .malformed p, false)
      | some (.inl d) => (d, ts ≠ [] || e ≠ .clean)
      | some (.inr (stack, p)) => ofTokens ts e stack p

/-- The document of a text, and whether more follows it. -/
def parse (cs : List Char) : Document × Bool :=
  let (ts, e) := Token.scan cs
  ofTokens ts e [] (.value false)

/-! ### From a value, and back -/

mutual

/-- A value as a document. -/
def ofJson : Json → Document
  | .null => .null
  | .bool b => .bool b
  | .number n => .number (some n)
  | .string s => .string (some s)
  | .array items => .array (ofItems items) none
  | .object members => .object (ofMembers members) none

def ofItems : List Json → List Document
  | [] => []
  | j :: r => ofJson j :: ofItems r

def ofMembers : List (String × Json) → List (String × Document)
  | [] => []
  | (k, j) :: r => (k, ofJson j) :: ofMembers r

end

mutual

/-- The first place at which a document breaks off.  A number out of range and half a surrogate pair
do not matter to a reader that skips them. -/
def fault? : Document → Option Fault
  | .broken f => some f
  | .array items stop => (faultItems items).or stop
  | .object members stop => (faultMembers members).or stop
  | _ => none

def faultItems : List Document → Option Fault
  | [] => none
  | d :: r => (fault? d).or (faultItems r)

def faultMembers : List (String × Document) → Option Fault
  | [] => none
  | (_, d) :: r => (fault? d).or (faultMembers r)

end

mutual

/-- How deep containers nest in a document. -/
def depth : Document → Nat
  | .array items _ => depthItems items + 1
  | .object members _ => depthMembers members + 1
  | _ => 0

def depthItems : List Document → Nat
  | [] => 0
  | d :: r => max (depth d) (depthItems r)

def depthMembers : List (String × Document) → Nat
  | [] => 0
  | (_, d) :: r => max (depth d) (depthMembers r)

end

/-- The fault of a reader that asked for something else: a value is read before it is refused, a
container is refused at its opening bracket. -/
def unfit : Document → Fault
  | .broken f => f
  | .number none => .malformed
  | .string none => .malformed
  | _ => .mismatch

mutual

/-- The value of a document, with objects sorted by key. -/
def toJson : Document → Except Fault Json
  | .null => .ok .null
  | .bool b => .ok (.bool b)
  | .number (some n) => .ok (.number n)
  | .number none => .error .malformed
  | .string (some s) => .ok (.string s)
  | .string none => .error .malformed
  | .array items stop => do
      let items ← toItems items
      match stop with
      | some f => .error f
      | none => .ok (.array items)
  | .object members stop => do
      let members ← toMembers members
      match stop with
      | some f => .error f
      | none => .ok (.object (Dict.ofList members))
  | .broken f => .error f

def toItems : List Document → Except Fault (List Json)
  | [] => .ok []
  | d :: r => do
      let j ← toJson d
      let js ← toItems r
      pure (j :: js)

def toMembers : List (String × Document) → Except Fault (List (String × Json))
  | [] => .ok []
  | (k, d) :: r => do
      let j ← toJson d
      let js ← toMembers r
      pure ((k, j) :: js)

end

end Document

/-- The value of a JSON text. -/
def parse (text : String) : Except Fault Json := do
  let (d, more) := Document.parse text.toList
  let j ← d.toJson
  if more then .error .malformed else pure j

end Parley.Json
