import StackSampler.Json.Numeral

/-!
# Reading values of a known shape

Readers for the shapes that documents are made of. A value of another shape is refused with a
message that names what was found and what was expected.

* `Shape` describes a record: its fields in order, what is kept while they are read, and what becomes
  of it in the end. `record` reads it from an object with the fields in any order, or from an array
  with the fields in their order.
* `choice` reads a name from a fixed list, with or without a value.
-/

namespace StackSampler.Json

namespace Reader

variable {α σ : Type}

/-! ## Values nobody asked for -/

mutual

/-- Skips one value. Every call takes at least one cell, so as many calls as cells are enough. -/
def skipValueAt : List Cell → Reader Unit
  | [] => fail .endInValue
  | _ :: fuel => do
    match ← peek .endInValue with
    | some 'n' => eat; literal "ull".toList
    | some 't' => eat; literal "rue".toList
    | some 'f' => eat; literal "alse".toList
    | some '"' => eat; skipString
    | some '-' => eat; skipNumeral
    | some '[' =>
      eat
      if (← peek .endInList) = some ']' then eat
      else
        skipValueAt fuel
        skipItemsAt fuel
    | some '\x7b' =>
      eat
      if (← peek .endInObject) = some '\x7d' then eat
      else
        skipMemberAt fuel
        skipMembersAt fuel
    | c => if Numeral.isDigit c then skipNumeral else fail .expectedValue

/-- Skips the items of an array after the first one. -/
def skipItemsAt : List Cell → Reader Unit
  | [] => fail .endInList
  | _ :: fuel => do
    match ← peek .endInList with
    | some ']' => eat
    | some ',' =>
      eat
      skipValueAt fuel
      skipItemsAt fuel
    | _ => fail .expectedListSeparator

/-- Skips a member of an object. -/
def skipMemberAt : List Cell → Reader Unit
  | [] => fail .endInObject
  | _ :: fuel => do
    match ← peek .endInObject with
    | some '"' => eat
    | _ => fail .keyNotString
    skipString
    colon
    skipValueAt fuel

/-- Skips the members of an object after the first one. -/
def skipMembersAt : List Cell → Reader Unit
  | [] => fail .endInObject
  | _ :: fuel => do
    match ← peek .endInObject with
    | some '\x7d' => eat
    | some ',' =>
      eat
      skipMemberAt fuel
      skipMembersAt fuel
    | _ => fail .expectedObjectSeparator

end

def skipValue : Reader Unit := do skipValueAt (← bound)

/-! ## Single values -/

/-- Refuses the value in front, whatever it is. Scalars are read first, so a fault in them wins. -/
def mismatch (expected : String) : Reader α := do
  let found : Found ← match ← peek .endInValue with
    | some 'n' => do eat; literal "ull".toList; pure .null
    | some 't' => do eat; literal "rue".toList; pure (.bool true)
    | some 'f' => do eat; literal "alse".toList; pure (.bool false)
    | some '"' => do eat; pure (.string (← string))
    | some '-' => do eat; pure (← numeral true).found
    | some '[' => pure .list
    | some '\x7b' => pure .object
    | c => if Numeral.isDigit c then do pure (← numeral false).found else fail .expectedValue
  refuse (.wrongType found expected)

/-- A string. -/
def text (expected : String) : Reader String := do
  if (← peek .endInValue) = some '"' then
    eat
    string
  else mismatch expected

/-- A natural number up to `largest`. -/
def natural (largest : Nat) (expected : String) : Reader Nat := do
  let c ← peek .endInValue
  if c = some '-' ∨ Numeral.isDigit c then
    if c = some '-' then eat
    match ← numeral (c = some '-') with
    | .natural n => if largest < n then refuse (.wrongInteger n expected) else return n
    | .negative n => refuse (.wrongInteger n expected)
    | .float x => refuse (.wrongType (.float x) expected)
  else mismatch expected

/-- A value that may be `null`. -/
def optional (r : Reader α) : Reader (Option α) := do
  if (← peek .endInValue) = some 'n' then
    eat
    literal "ull".toList
    return none
  else
    let a ← r
    return some a

/-- An array of any length. -/
def array (item : Reader α) : Reader (List α) := do
  if (← peek .endInValue) = some '[' then
    eat
    items item
  else mismatch "a sequence"

/-! ## Records -/

/-- A field of a record that is being read. -/
structure Field (σ : Type) where
  name : String
  /-- Whether the field was read already. -/
  isSet : σ → Bool
  read : σ → Reader σ

/-- A field that is kept in an optional part of the record. -/
def Field.of {β : Type} (name : String) (get : σ → Option β) (set : σ → β → σ) (r : Reader β) :
    Field σ where
  name := name
  isSet := fun s => (get s).isSome
  read := fun s => do
    let b ← r
    return set s b

/-- A part of a record that has to be there. -/
def need {β : Type} (name : String) : Option β → Except ValueFault β
  | some b => .ok b
  | none => .error (.missingField name)

/-- A record: what is known of it while it is being read is a `σ`. -/
structure Shape (σ α : Type) where
  /-- What an object or array is expected for. -/
  title : String
  /-- What an array that is too short was expected to be. -/
  arity : String
  fields : List (Field σ)
  /-- Whether fields of other names are refused. -/
  strict : Bool
  start : σ
  finish : σ → Except ValueFault α

variable (shape : Shape σ α)

def Shape.names : List String := shape.fields.map Field.name

/-- The members of an object whose brace is read. -/
def membersAt : List Cell → Bool → σ → Reader σ
  | [], _, s => pure s
  | _ :: fuel, first, s => do
    if ← nextKey first then
      let key ← string
      match shape.fields.find? fun f => f.name == key with
      | some f =>
        if f.isSet s then refuse (.duplicateField key)
        colon
        membersAt fuel false (← f.read s)
      | none =>
        if shape.strict then refuse (.unknownField key shape.names)
        colon
        skipValue
        membersAt fuel false s
    else
      return s

/-- The fields of an array whose bracket is read. -/
def elements : List (Field σ) → Nat → σ → Reader σ
  | [], _, s => pure s
  | f :: fs, i, s => do
    if ← nextItem (i == 0) then elements fs (i + 1) (← f.read s)
    else refuse (.wrongLength i shape.arity)

def finished (s : σ) : Reader α :=
  match shape.finish s with
  | .ok a => pure a
  | .error f => refuse f

def record : Reader α := do
  match ← peek .endInValue with
  | some '\x7b' =>
    eat
    let s ← membersAt shape (← bound) true shape.start
    let a ← finished shape s
    eat
    return a
  | some '[' =>
    eat
    let s ← elements shape shape.fields 0 shape.start
    let a ← finished shape s
    closeArray
    return a
  | _ => mismatch shape.title

/-! ## Names with values -/

/-- One of the names that a value may start with. -/
structure Variant (α : Type) where
  name : String
  /-- What the name stands for without a value. -/
  bare : Except ValueFault α
  /-- Reads the value behind the name. -/
  read : Reader α

/-- A name that takes no value; `null` may stand for that. -/
def Variant.plain (name : String) (a : α) : Variant α where
  name := name
  bare := .ok a
  read := do
    if (← peek .endInValue) = some 'n' then
      eat
      literal "ull".toList
      return a
    else mismatch "unit"

/-- A name that needs a value. -/
def Variant.carrying (name : String) (read : Reader α) : Variant α where
  name := name
  bare := .error (.wrongType .bareName "newtype variant")
  read := read

/-- The variant of a name. -/
def variantOf (variants : List (Variant α)) (name : String) : Reader (Variant α) :=
  match variants.find? fun v => v.name == name with
  | some v => pure v
  | none => refuse (.unknownName name (variants.map Variant.name))

/-- A bare name, or an object whose single member is a name and its value. -/
def choice (variants : List (Variant α)) : Reader α := do
  match ← peek .endInValue with
  | some '"' =>
    eat
    let v ← variantOf variants (← string)
    match v.bare with
    | .ok a => return a
    | .error f => refuse f
  | some '\x7b' =>
    eat
    let v ← variantOf variants (← text "variant identifier")
    colon
    let a ← v.read
    closeMember
    return a
  | _ => fail .expectedValue

end Reader

end StackSampler.Json
