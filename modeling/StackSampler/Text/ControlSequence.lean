/-!
# Control sequences

Text for a terminal may hold control sequences: they start with an escape and tell the terminal what
to do. `shown` is what is left of a text for a reader who knows nothing of them: the characters with
a form, and white space.

White space within a sequence is shown at once, and so is what follows it, up to the next character
that is never shown; there the sequence goes on.
-/

namespace StackSampler.Text.ControlSequence

/-- Where in a sequence a reader is. -/
inductive State where
  /-- In no sequence. -/
  | ground
  /-- Behind an escape. -/
  | escape
  /-- Behind an escape and the first characters of a longer code. -/
  | code
  /-- In a control sequence: parameters, ended by a letter. -/
  | control
  /-- In a command to the system, ended by a bell. -/
  | command
  /-- In front of a device control string. -/
  | device
  /-- In the parameters of a device control string. -/
  | deviceParameters
  /-- Behind the parameters of a device control string. -/
  | deviceCode
  /-- In a string that the byte `9c` ends. -/
  | string
  deriving DecidableEq, Repr

/-- The state behind an ASCII character. -/
def State.nextAscii (s : State) (n : Nat) : State :=
  if n = 0x18 ∨ n = 0x1a then .ground
  else if n = 0x1b then .escape
  else if n < 0x20 ∨ n = 0x7f then if s = .command ∧ n = 7 then .ground else s
  else
    match s with
    | .ground => .ground
    | .escape =>
      if n < 0x30 then .code
      else if n = 0x5b then .control
      else if n = 0x5d then .command
      else if n = 0x50 then .device
      else if n = 0x58 ∨ n = 0x5e ∨ n = 0x5f then .string
      else .ground
    | .code => if n < 0x30 then .code else .ground
    | .control => if n < 0x40 then .control else .ground
    | .command => .command
    | .device =>
      if n < 0x30 then .deviceCode else if n < 0x40 then .deviceParameters else .string
    | .deviceParameters =>
      if n < 0x30 then .deviceCode else if n < 0x3c then .deviceParameters else .string
    | .deviceCode => if n < 0x30 then .deviceCode else .string
    | .string => .string

/-- The state behind a character. Outside of ASCII it is the bytes that count. -/
def State.next (s : State) (c : Char) : State :=
  if c.toNat < 0x80 then s.nextAscii c.toNat
  else if s = .string ∧ (String.utf8EncodeChar c).contains 0x9c then .ground
  else s

/-- The controls that are white space. -/
def isSpacing (c : Char) : Bool := c == '\t' || c == '\n' || c == '\x0c' || c == '\r'

/-- Whether a character is shown outside of all sequences. -/
def isShown (c : Char) : Bool := isSpacing c || (0x20 ≤ c.toNat && c.toNat ≠ 0x7f)

/-- Whether a character is shown in a state. -/
def State.shows (s : State) (c : Char) : Bool :=
  match s with
  | .ground => isShown c
  | .escape | .code | .control => isSpacing c
  | _ => false

/-- What is shown of the rest of a text; `running` tells that the character before was shown. -/
def shownFrom (running : Bool) (s : State) : List Char → List Char
  | [] => []
  | c :: cs =>
    if running && isShown c then
      c :: shownFrom true (if c.toNat < 0x80 then s else .ground) cs
    else if s.shows c then c :: shownFrom true (s.next c) cs
    else shownFrom false (s.next c) cs

/-- What is shown of a text. -/
def shown (cs : List Char) : List Char := shownFrom false .ground cs

end StackSampler.Text.ControlSequence
