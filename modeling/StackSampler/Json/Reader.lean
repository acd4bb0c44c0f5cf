import StackSampler.Json.Fault
import StackSampler.Total

/-!
# Reading JSON from the left

The input of a reader is a list of **cells**: the characters of a text, and stray bytes that belong
to no character. A reader takes cells from the front and stops at the first fault.

* `string` reads a string with its escapes, `numeral` a number, `skipValue` a value nobody asked for.
* `nextItem` and `nextKey` step through arrays and objects.
-/

namespace StackSampler.Json

/-- A character, or `none` for a stray byte. -/
abbrev Cell := Option Char

/-- The bytes that a cell stands for. -/
def Cell.size (c : Cell) : Nat := c.elim 1 Char.utf8Size

/-- The cells of a text. -/
def cells (s : String) : List Cell := s.toList.map some

/-- The cells of bytes from position `i` on, at most `fuel` of them. -/
def scanBytes (b : ByteArray) : Nat → Nat → List Cell
  | 0, _ => []
  | fuel + 1, i =>
    if i < b.size then
      match b.utf8DecodeChar? i with
      | some c => some c :: scanBytes b fuel (i + c.utf8Size)
      | none => none :: scanBytes b fuel (i + 1)
    else []

/-- The cells of bytes. -/
def cellsOfBytes (b : ByteArray) : List Cell :=
  match String.fromUTF8? b with
  | some s => cells s
  | none => scanBytes b b.size 0

/-- Takes cells from the front. -/
abbrev Reader := StateT (List Cell) (Except Fault)

namespace Reader

variable {α : Type}

def fail (f : TextFault) : Reader α := throw (.text f)

def refuse (f : ValueFault) : Reader α := throw (.value f)

/-- The blanks between tokens. -/
def isBlank (c : Cell) : Bool :=
  match c with
  | some c => c == ' ' || c == '\n' || c == '\t' || c == '\r'
  | none => false

def skipBlanks : Reader Unit := modify (List.dropWhile isBlank)

/-- The first cell after blanks, left where it is; `atEnd` is the fault of a text that ends here. -/
def peek (atEnd : TextFault) : Reader Cell := do
  skipBlanks
  match ← get with
  | [] => fail atEnd
  | c :: _ => return c

/-- Drops one cell. -/
def eat : Reader Unit := modify List.tail

/-- The rest of a literal whose first letter is read. -/
def literal : List Char → Reader Unit
  | [] => pure ()
  | c :: cs => do
    match ← get with
    | [] => fail .endInValue
    | d :: rest => if d = some c then set rest; literal cs else fail .expectedLiteral

/-! ## Strings -/

/-- The value of a hexadecimal digit. -/
def hexValue : Cell → Option Nat
  | none => none
  | some c =>
    if '0' ≤ c ∧ c ≤ '9' then some (c.toNat - 48)
    else if 'a' ≤ c ∧ c ≤ 'f' then some (c.toNat - 87)
    else if 'A' ≤ c ∧ c ≤ 'F' then some (c.toNat - 55)
    else none

/-- The number that four hexadecimal digits stand for. -/
def hexFour (a b c d : Cell) : Option Nat := do
  return ((← hexValue a) * 16 + (← hexValue b)) * 256 + ((← hexValue c) * 16 + (← hexValue d))

/-- The fault of an escape in front of fewer than four cells. Four bytes are taken before the digits
are looked at. -/
def shortEscape (cs : List Cell) : TextFault :=
  if total (cs.map Cell.size) < 4 then .endInString else .invalidEscape

/-- The character of a one-letter escape. -/
def letterEscape : Cell → Option Char
  | some '"' => some '"'
  | some '\\' => some '\\'
  | some '/' => some '/'
  | some 'b' => some (Char.ofNat 8)
  | some 'f' => some (Char.ofNat 12)
  | some 'n' => some '\n'
  | some 'r' => some '\r'
  | some 't' => some '\t'
  | _ => none

def isControl (c : Cell) : Bool := c.any fun c => c.toNat < 32

def isHighSurrogate (n : Nat) : Bool := 0xd800 ≤ n && n ≤ 0xdbff

def isLowSurrogate (n : Nat) : Bool := 0xdc00 ≤ n && n ≤ 0xdfff

/-- The character of a surrogate pair. -/
def pairedChar (high low : Nat) : Char :=
  Char.ofNat ((high - 0xd800) * 0x400 + (low - 0xdc00) + 0x10000)

/-- The cells of a string up to its closing quote, escapes replaced, and the input after it. An
escaped high surrogate waits in `high` for the low one, which has to follow at once. -/
def stringBody : Option Nat → List Cell → Except TextFault (List Cell × List Cell)
  | _, [] => .error .endInString
  | _, [some '\\'] => .error .endInString
  | high, some '\\' :: some 'u' :: a :: b :: c :: d :: rest =>
    match high, hexFour a b c d with
    | _, none => .error .invalidEscape
    | none, some n =>
      if isLowSurrogate n then .error .loneSurrogate
      else if isHighSurrogate n then stringBody (some n) rest
      else (stringBody none rest).map fun (cs, rest) => (some (Char.ofNat n) :: cs, rest)
    | some h, some n =>
      if isLowSurrogate n then
        (stringBody none rest).map fun (cs, rest) => (some (pairedChar h n) :: cs, rest)
      else .error .loneSurrogate
  | _, some '\\' :: some 'u' :: short => .error (shortEscape short)
  | some _, _ :: _ => .error .endOfHexEscape
  | none, some '\\' :: e :: rest =>
    match letterEscape e with
    | some c => (stringBody none rest).map fun (cs, rest) => (some c :: cs, rest)
    | none => .error .invalidEscape
  | none, some '"' :: rest => .ok ([], rest)
  | none, c :: rest =>
    if isControl c then .error .controlCharacter
    else (stringBody none rest).map fun (cs, rest) => (c :: cs, rest)

/-- A string whose opening quote is read. A stray byte in it is found at its end. -/
def string : Reader String := do
  match stringBody none (← get) with
  | .error f => fail f
  | .ok (cs, rest) =>
    if cs.all Option.isSome then
      set rest
      return String.ofList (cs.filterMap id)
    else fail .invalidCodePoint

/-- The input after a string that nobody asked for: escapes need only look like escapes, and stray
bytes pass. -/
def skipBody : List Cell → Except TextFault (List Cell)
  | [] => .error .endInString
  | [some '\\'] => .error .endInString
  | some '\\' :: some 'u' :: a :: b :: c :: d :: rest =>
    if (hexFour a b c d).isSome then skipBody rest else .error .invalidEscape
  | some '\\' :: some 'u' :: short => .error (shortEscape short)
  | some '\\' :: e :: rest =>
    if (letterEscape e).isSome then skipBody rest else .error .invalidEscape
  | some '"' :: rest => .ok rest
  | c :: rest => if isControl c then .error .controlCharacter else skipBody rest

def skipString : Reader Unit := do
  match skipBody (← get) with
  | .error f => fail f
  | .ok rest => set rest

/-! ## Arrays and objects -/

/-- Whether an array whose bracket is read has one more item. -/
def nextItem (first : Bool) : Reader Bool := do
  match ← peek .endInList with
  | some ']' => return false
  | some ',' =>
    if first then return true
    eat
    match ← peek .endInValue with
    | some ']' => fail .trailingComma
    | _ => return true
  | _ => if first then return true else fail .expectedListSeparator

/-- Whether an object whose brace is read has one more member; its opening quote is read then. -/
def nextKey (first : Bool) : Reader Bool := do
  match ← peek .endInObject with
  | some '\x7d' => return false
  | c =>
    if first then
      if c = some '"' then eat else fail .keyNotString
    else if c = some ',' then
      eat
      match ← peek .endInValue with
      | some '"' => eat
      | some '\x7d' => fail .trailingComma
      | _ => fail .keyNotString
    else fail .expectedObjectSeparator
    return true

/-- The colon after a key. -/
def colon : Reader Unit := do
  match ← peek .endInObject with
  | some ':' => eat
  | _ => fail .expectedColon

/-- The bracket of an array of fixed length. -/
def closeArray : Reader Unit := do
  match ← peek .endInList with
  | some ']' => eat
  | some ',' =>
    eat
    match ← peek .trailingCharacters with
    | some ']' => fail .trailingComma
    | _ => fail .trailingCharacters
  | _ => fail .trailingCharacters

/-- The brace behind the single member of an object. -/
def closeMember : Reader Unit := do
  match ← peek .endInObject with
  | some '\x7d' => eat
  | _ => fail .expectedValue

/-- Cells that bound the number of steps from here on: every step takes at least one cell, and the
last one finds that there are no more. -/
def bound : Reader (List Cell) := do return none :: (← get)

/-- All items of an array whose bracket is read, the closing bracket too; as many items as `fuel` has
cells. -/
def itemsAt (item : Reader α) : List Cell → Bool → Reader (List α)
  | [], _ => pure []
  | _ :: fuel, first => do
    if ← nextItem first then
      let a ← item
      let more ← itemsAt item fuel false
      return a :: more
    else
      eat
      return []

/-- All items of an array. -/
def items (item : Reader α) : Reader (List α) := do itemsAt item (← bound) true

/-- A whole document: nothing but blanks may follow. -/
def document (r : Reader α) : Reader α := do
  let a ← r
  skipBlanks
  if (← get).isEmpty then return a else fail .trailingCharacters

end Reader

end StackSampler.Json
