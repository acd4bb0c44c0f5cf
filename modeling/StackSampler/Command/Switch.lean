import StackSampler.Decimal.Digits

/-!
# Switches

The words behind a command's name are its switches and their values. A switch has a long name
(`--output`) and maybe a short one (`-o`). A value is the next word, or stands in the same word:
`--output=x`, `-o=x`, `-ox`. Short names may share a word: `-vo x`.

Words are read from left to right, and the first one that decides the outcome wins: a word that is
refused, or one that asks for help or the version.

* `read` collects what the switches of a command say in the command's arguments.
-/

namespace StackSampler.Command

/-- Why a command line is not carried out. -/
inductive Halt where
  | usage
  /-- Help was asked for, about a command or the whole program, in short or in full. -/
  | help (topic : Option String) (full : Bool)
  | version
  deriving DecidableEq, Repr

/-- What is told about a switch. -/
structure Label where
  long : String
  short : Option Char := none
  about : String
  takesValue : Bool := true
  required : Bool := false
  /-- The environment variable that is read where the switch is absent. -/
  source : Option String := none
  /-- The value where neither the switch nor the variable is there. -/
  fallback : Option String := none
  /-- The values to choose from, and what is told about them. -/
  choices : List (String × String) := []
  deriving Repr, Inhabited

/-- What a switch does to a command's arguments. -/
inductive Effect (α : Type) where
  | flag (set : α → α)
  /-- The switch has a value; `none` refuses it. -/
  | value (set : String → α → Option α)
  /-- The command is not carried out. The answer may depend on whether the long name was used. -/
  | halt (answer : Bool → Halt)

namespace Effect

variable {α : Type}

/-- A number of at most 64 bits. -/
def number (set : Nat → α → α) : Effect α :=
  .value fun text a => (Decimal.word? text.toList).map (set · a)

/-- A path is not empty. -/
def path (set : String → α → α) : Effect α :=
  .value fun text a => if text.isEmpty then none else some (set text a)

def text (set : String → α → α) : Effect α := .value fun text a => some (set text a)

def takesValue : Effect α → Bool
  | .value _ => true
  | _ => false

end Effect

structure Switch (α : Type) extends Label where
  effect : Effect α

/-! ## Reading words -/

/-- What the words so far say. -/
structure Reading (α : Type) where
  args : α
  /-- The long names of the switches so far: none may come twice. -/
  seen : List String := []
  /-- A switch whose value has to be the next word. -/
  pending : Option (Switch α) := none
  /-- The word that ends all switches was there. -/
  closed : Bool := false

namespace Reading

variable {α : Type} (r : Reading α)

/-- A switch that did not come before. -/
def note (s : Switch α) : Except Halt (Reading α) :=
  if r.seen.contains s.long then .error .usage
  else .ok { r with seen := s.long :: r.seen, pending := none }

/-- A switch and its value. -/
def give (s : Switch α) (text : String) : Except Halt (Reading α) := do
  let r ← r.note s
  match s.effect with
  | .value set =>
    match set text r.args with
    | some args => return { r with args }
    | none => throw .usage
  | _ => throw .usage

/-- A switch without a value in the same word; `long` tells which name was used. -/
def meet (s : Switch α) (long : Bool) : Except Halt (Reading α) := do
  match s.effect with
  | .flag set =>
    let r ← r.note s
    return { r with args := set r.args }
  | .value _ => return { r with pending := some s }
  | .halt answer => throw (answer long)

variable (switches : List (Switch α))

/-- A word that is a long name, maybe with a value; the dashes are gone. -/
def long (word : List Char) : Except Halt (Reading α) :=
  let name := String.ofList (word.takeWhile (· != '='))
  match switches.find? fun s => s.long == name with
  | none => .error .usage
  | some s =>
    match word.dropWhile (· != '=') with
    | [] => r.meet s true
    | _ :: text => r.give s (String.ofList text)

/-- A word of short names; the dash is gone. Behind the name of a switch that has a value the rest
of the word is that value. -/
def short : List Char → Reading α → Except Halt (Reading α)
  | [], r => .ok r
  | c :: rest, r =>
    match switches.find? fun s => s.short == some c with
    | none => .error .usage
    | some s =>
      if s.effect.takesValue && !rest.isEmpty then
        r.give s (String.ofList (if rest.head? = some '=' then rest.tail else rest))
      else do short rest (← r.meet s false)

/-- Whether a word has to be a switch. A lone dash does not. -/
def isSwitch (word : String) : Bool :=
  match word.toList with
  | '-' :: _ :: _ => true
  | _ => false

/-- The next word. -/
def step (word : String) : Except Halt (Reading α) :=
  match r.pending with
  | some s => if isSwitch word then .error .usage else r.give s word
  | none =>
    if r.closed then .error .usage
    else
      match word.toList with
      | ['-', '-'] => .ok { r with closed := true }
      | '-' :: '-' :: name => r.long switches name
      | '-' :: c :: names => short switches (c :: names) r
      | _ => .error .usage

/-- The switches that are absent take their values from the environment. -/
def fill (environment : String → Option String) : Except Halt (Reading α) :=
  switches.foldlM (fun r s =>
    if r.seen.contains s.long then .ok r
    else
      match s.source.bind environment with
      | none => .ok r
      | some text => r.give s text) r

/-- What all words of a command say. -/
def read (environment : String → Option String) (start : α) (words : List String) :
    Except Halt α := do
  let r ← words.foldlM (fun r word => step r switches word) ({ args := start } : Reading α)
  if r.pending.isSome then throw .usage
  let r ← r.fill switches environment
  return r.args

end Reading

end StackSampler.Command
