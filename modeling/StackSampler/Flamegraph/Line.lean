import StackSampler.Decimal.Digits
import StackSampler.Text.Blank
import StackSampler.Text.Split

/-!
# Weighted lines

The lines that a flamegraph is drawn from: a stack, a blank, and a weight. Two weights in a row mean
a comparison: the first is the weight of an earlier profile. Lines are cleaned and sorted before
they are read, so stacks that start alike stand together.
-/

namespace StackSampler.Flamegraph

/-- A line as it was read. -/
structure Line where
  /-- The frames from the outermost inwards. -/
  stack : List Char
  weight : Nat
  /-- The weight before, if the line compares two. -/
  before : Option Nat := none
  deriving DecidableEq, Repr

/-- A weight as lines have it: digits, and maybe a fraction, which is dropped. -/
def weight? (word : List Char) : Option Nat :=
  let whole := word.takeWhile (· != '.')
  let fraction := (word.dropWhile (· != '.')).drop 1
  if (whole ++ fraction).all Char.isDigit then Decimal.word? whole else none

/-- The weight behind the last blank of a line, and the line in front of it. -/
def lastWeight (line : List Char) : Option (List Char × Nat) :=
  let word := (line.reverse.takeWhile (· != ' ')).reverse
  if word.length = line.length then none
  else (weight? word).map fun n =>
    (Text.trimEnd (line.take (line.length - word.length - 1)), n)

/-- A line, if it has a weight and a stack. -/
def Line.read (text : List Char) : Option Line := do
  let (rest, weight) ← lastWeight text
  let line : Line := match lastWeight rest with
    | some (stack, before) => ⟨stack, weight, some before⟩
    | none => ⟨rest, weight, none⟩
  if line.stack.isEmpty then none else some line

/-- Lines without white space at their ends, without empty ones and comments, in order. -/
def cleaned (lines : List String) : List String :=
  let trimmed := lines.map fun l => String.ofList (Text.trim l.toList)
  let kept := trimmed.filter fun l => !(l.isEmpty || ['#', ' '].isPrefixOf l.toList)
  kept.mergeSort (· ≤ ·)

/-- The lines that a flamegraph is drawn from. -/
def readLines (lines : List String) : List Line :=
  (cleaned lines).filterMap fun l => Line.read l.toList

end StackSampler.Flamegraph
