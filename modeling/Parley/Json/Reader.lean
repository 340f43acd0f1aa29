import Parley.Json.Document

/-!
# Reading values from documents

A `Reader` turns a document into a value of a domain type or tells the first fault that it meets.  A
record is read field by field with `Record`, an applicative: each field finds its member by name,
and of several faults the one that stands first in the document counts.  A record may also stand as
an array, its fields in order of declaration.
-/

namespace Parley.Json

/-- A way to read a value. -/
abbrev Reader (α : Type) := Document → Except Fault α

namespace Reader

variable {α β : Type}

def text : Reader String
  | .string (some s) => .ok s
  | d => .error d.unfit

def bool : Reader Bool
  | .bool b => .ok b
  | d => .error d.unfit

/-- An integer between two bounds. -/
def intBetween (lo hi : Int) : Reader Int
  | .number (some (.int i)) => if lo ≤ i ∧ i ≤ hi then .ok i else .error .mismatch
  | d => .error d.unfit

/-- A whole number below `2^bits`. -/
def natBits (bits : Nat) : Reader Nat :=
  fun d => (intBetween 0 (Nat.pow 2 bits - 1) d).map Int.toNat

/-- A word of 32 bits. -/
def uint32 : Reader UInt32 := fun d => (natBits 32 d).map UInt32.ofNat

/-- A signed integer of 64 bits. -/
def int64 : Reader Int := intBetween (-Nat.pow 2 63) (Nat.pow 2 63 - 1)

/-- Any number, as a double. -/
def float : Reader Binary64
  | .number (some n) => .ok n.toBinary64
  | d => .error d.unfit

/-- Any number, in single precision. -/
def single : Reader Binary64 := fun d => (float d).map Binary64.toSingle

/-- Any value. -/
def json : Reader Json := Document.toJson

/-- An object, as its members sorted by key. -/
def jsonObject : Reader (Dict Json)
  | .object members stop =>
      match Document.toJson (.object members stop) with
      | .ok (.object sorted) => .ok sorted
      | .ok _ => .error .mismatch
      | .error f => .error f
  | d => .error d.unfit

/-- A value or `null`. -/
def option (r : Reader α) : Reader (Option α)
  | .null => .ok none
  | d => (r d).map some

/-- Read the documents of a list one after the other. -/
def items (r : Reader α) (ds : List Document) : Except Fault (List α) := ds.mapM r

def list (r : Reader α) : Reader (List α)
  | .array ds stop => do
      let xs ← items r ds
      match stop with
      | some f => .error f
      | none => .ok xs
  | d => .error d.unfit

/-- Read the members of an object; of two with the same key the later one stays. -/
def dict (r : Reader α) : Reader (Dict α)
  | .object members stop => do
      let entries ← members.mapM fun (k, d) => (r d).map (k, ·)
      match stop with
      | some f => .error f
      | none => .ok (Dict.ofList entries)
  | d => .error d.unfit

/-- One of several names, as a text or as the only member of an object with the value `null`. -/
def choice (parse : String → Option α) : Reader α
  | .string (some s) => (parse s).elim (.error .mismatch) .ok
  | .object ((k, d) :: rest) stop =>
      match parse k with
      | none => .error .mismatch
      | some a =>
          match d, rest, stop with
          | .null, [], none => .ok a
          | .null, [], some f => .error f
          | .null, _ :: _, _ => .error .malformed
          | d, _, _ => .error d.unfit
  | .object [] stop => .error (stop.getD .malformed)
  | .broken f => .error f
  | _ => .error .malformed

end Reader

/-! ### Records -/

/-- The members of a record, and whether they stood as an array without names. -/
structure Fields where
  members : List (String × Document)
  positional : Bool

/-- A value, or a fault with the position of the member where it arises. -/
abbrev Located (α : Type) := Except (Nat × Fault) α

/-- Of two faults the one that stands first counts. -/
def Located.both {α β : Type} (f : Located (α → β)) (a : Located α) : Located β :=
  match f, a with
  | .ok f, .ok a => .ok (f a)
  | .error e, .ok _ => .error e
  | .ok _, .error e => .error e
  | .error e, .error e' => .error (if e'.1 < e.1 then e' else e)

/-- The position, counted from `i`, and the document of the first member with a name. -/
def findMember (name : String) : Nat → List (String × Document) → Option (Nat × Document)
  | _, [] => none
  | i, (k, d) :: r => if k = name then some (i, d) else findMember name (i + 1) r

/-- The position and document of the first member with a name. -/
def Fields.find? (fs : Fields) (name : String) : Option (Nat × Document) :=
  findMember name 0 fs.members

/-- A way to read a record: the names of its fields and how to read them. -/
structure Record (α : Type) where
  names : List String
  read : Fields → Located α

instance : Applicative Record where
  pure a := ⟨[], fun _ => .ok a⟩
  seq f a := ⟨f.names ++ (a ()).names, fun fs => Located.both (f.read fs) ((a ()).read fs)⟩

namespace Record

variable {α : Type}

/-- A field; `missing` is its value where the member is left out, in an object and in an array. -/
def field (name : String) (r : Reader α) (missing : Bool → Option α) : Record α where
  names := [name]
  read fs :=
    match fs.find? name with
    | some (i, d) => (r d).mapError (i, ·)
    | none =>
        match missing fs.positional with
        | some a => .ok a
        | none => .error (fs.members.length + 1, .mismatch)

/-- A field that has to be there. -/
def required (name : String) (r : Reader α) : Record α := field name r fun _ => none

/-- A field with a value of its own where it is left out. -/
def defaulted (name : String) (r : Reader α) (value : α) : Record α :=
  field name r fun _ => some value

/-- A field that may be left out or `null`. -/
def optional (name : String) (r : Reader α) : Record (Option α) := defaulted name r.option none

/-- A field that may be `null`, and in an object be left out. -/
def nullable (name : String) (r : Reader α) : Record (Option α) :=
  field name r.option fun positional => if positional then none else some none

/-- The first fault of the members themselves: a known name for the second time, or an unknown
member that breaks off. -/
def layoutFault (names : List String) :
    Nat → List String → List (String × Document) → Option (Nat × Fault)
  | _, _, [] => none
  | i, seen, (k, d) :: r =>
      if k ∈ names then
        if k ∈ seen then some (i, .mismatch) else layoutFault names (i + 1) (k :: seen) r
      else
        match d.fault? with
        | some f => some (i, f)
        | none => layoutFault names (i + 1) seen r

/-- Read a record whose members stand in an object with these members. -/
def ofMembers (r : Record α) (members : List (String × Document)) (stop : Option Fault) :
    Except Fault α :=
  let layout : Located Unit :=
    match layoutFault r.names 0 [] members with
    | some e => .error e
    | none =>
        match stop with
        | some f => .error (members.length, f)
        | none => .ok ()
  (Located.both (layout.map fun _ => id) (r.read ⟨members, false⟩)).mapError (·.2)

/-- Read a record whose fields stand in an array in order of declaration. -/
def ofItems (r : Record α) (items : List Document) (stop : Option Fault) : Except Fault α :=
  let members := r.names.zip items
  let layout : Located Unit :=
    if r.names.length < items.length then .error (r.names.length, .malformed)
    else
      match stop with
      | some f => .error (items.length, f)
      | none => .ok ()
  (Located.both (layout.map fun _ => id) (r.read ⟨members, true⟩)).mapError (·.2)

/-- Read a record from an object only. -/
def objectReader (r : Record α) : Reader α
  | .object members stop => r.ofMembers members stop
  | d => .error d.unfit

/-- Read a record from an object or an array. -/
def reader (r : Record α) : Reader α
  | .object members stop => r.ofMembers members stop
  | .array items stop => r.ofItems items stop
  | d => .error d.unfit

/-- Read a record chosen by the text of one member, which in an array is the first item. -/
def tagged (tag : String) (variant : String → Option (Record α)) : Reader α
  | .object members stop => do
      match stop with
      | some f => throw f
      | none =>
          match members.filter fun m => m.1 = tag with
          | [(_, d)] =>
              match variant (← Reader.text d) with
              | none => throw .mismatch
              | some r => r.ofMembers (members.filter fun m => m.1 ≠ tag) none
          | _ => throw .mismatch
  | .array items stop =>
      match stop, items with
      | some f, _ => .error f
      | none, [] => .error .mismatch
      | none, d :: rest => do
          match variant (← Reader.text d) with
          | none => throw .mismatch
          | some r => r.ofItems rest none
  | d => .error d.unfit

end Record

/-- Read a value from JSON. -/
def Reader.ofJson {α : Type} (r : Reader α) (j : Json) : Except Fault α := r (Document.ofJson j)

/-- Read a value from the text of a document. -/
def Reader.ofText {α : Type} (r : Reader α) (text : String) : Except Fault α := do
  let (d, more) := Document.parse text.toList
  let a ← r d
  if more then .error .malformed else pure a

end Parley.Json
