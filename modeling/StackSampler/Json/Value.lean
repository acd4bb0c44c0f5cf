import StackSampler.Decimal.Digits

/-!
# JSON documents

The documents that the library writes: their numbers are natural, and the members of an object keep
their order. `Value.compact` writes a document without any blanks, `Value.pretty` with one item a
line and two blanks a level; both are `Value.write` under a layout.
-/

namespace StackSampler.Json

inductive Value where
  | null
  | number (n : Nat)
  | string (s : String)
  | array (items : List Value)
  | object (members : List (String × Value))
  deriving Repr, Inhabited

/-- A four-digit escape of a character below 256. -/
def unicodeEscape (c : Char) : List Char :=
  ['\\', 'u', '0', '0', Nat.digitChar (c.toNat / 16), Nat.digitChar (c.toNat % 16)]

/-- A character inside quotes: the quote, the backslash and the controls are escaped, the controls
by a letter where they have one. -/
def escape (c : Char) : List Char :=
  if c = '"' then ['\\', '"']
  else if c = '\\' then ['\\', '\\']
  else if c = '\n' then ['\\', 'n']
  else if c = '\r' then ['\\', 'r']
  else if c = '\t' then ['\\', 't']
  else if c.toNat = 8 then ['\\', 'b']
  else if c.toNat = 12 then ['\\', 'f']
  else if c.toNat < 32 then unicodeEscape c
  else [c]

def quoted (s : String) : List Char := '"' :: s.toList.flatMap escape ++ ['"']

/-- Where blanks are put. -/
structure Layout where
  /-- In front of an item and of a closing bracket, by depth. -/
  gap : Nat → List Char
  /-- Between a colon and its value. -/
  afterColon : List Char

namespace Layout

def compact : Layout := ⟨fun _ => [], []⟩

def pretty : Layout := ⟨fun depth => '\n' :: List.replicate (2 * depth) ' ', [' ']⟩

end Layout

namespace Value

variable (l : Layout)

mutual

/-- A value whose closing bracket stands at `depth`. -/
def write (depth : Nat) : Value → List Char
  | .null => "null".toList
  | .number n => Decimal.digits n
  | .string s => quoted s
  | .array [] => ['[', ']']
  | .array (v :: vs) => '[' :: l.gap (depth + 1) ++ write (depth + 1) v ++ writeItems depth vs
  | .object [] => ['{', '}']
  | .object ((k, v) :: ms) =>
    '{' :: l.gap (depth + 1) ++ quoted k ++ ':' :: l.afterColon ++ write (depth + 1) v ++
      writeMembers depth ms

/-- The items after the first one, and the closing bracket. -/
def writeItems (depth : Nat) : List Value → List Char
  | [] => l.gap depth ++ [']']
  | v :: vs => ',' :: l.gap (depth + 1) ++ write (depth + 1) v ++ writeItems depth vs

/-- The members after the first one, and the closing bracket. -/
def writeMembers (depth : Nat) : List (String × Value) → List Char
  | [] => l.gap depth ++ ['}']
  | (k, v) :: ms =>
    ',' :: l.gap (depth + 1) ++ quoted k ++ ':' :: l.afterColon ++ write (depth + 1) v ++
      writeMembers depth ms

end

def compact (v : Value) : String := String.ofList (write .compact 0 v)

def pretty (v : Value) : String := String.ofList (write .pretty 0 v)

/-- An optional value. -/
def ofOption {α : Type} (f : α → Value) : Option α → Value
  | none => .null
  | some a => f a

end Value

end StackSampler.Json
