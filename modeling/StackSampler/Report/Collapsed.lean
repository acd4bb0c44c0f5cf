import StackSampler.Decimal.Digits
import StackSampler.Snapshot.Basic

/-!
# Collapsed stacks

A collapsed stack is one line of text: the names of its frames from the outermost inwards, joined by
semicolons, a blank, and a weight. `Snapshot.collapse` makes one of each entry that has samples.

The format cannot escape anything, so a name that would break a line apart gives way to a
placeholder.
-/

namespace StackSampler

/-- A stack as text, and the samples that it holds. -/
structure Collapsed where
  stack : String
  weight : Nat
  deriving DecidableEq, Repr, Inhabited

/-- What stands for the samples of evicted stacks. -/
def overflowName : String := "[others]"

/-- What stands for a name that does not fit into the format. -/
def placeholder : String := "[unnamed]"

/-- A name as a frame of a line: not empty, and without separators. -/
def frameText (name : String) : String :=
  if name.isEmpty || name.toList.contains ';' || name.toList.contains ' ' then placeholder else name

namespace Collapsed

variable (c : Collapsed)

def line : String := String.ofList (c.stack.toList ++ ' ' :: Decimal.digits c.weight)

/-- The innermost frame. -/
def leaf : String := String.ofList (c.stack.toList.reverse.takeWhile (· != ';')).reverse

/-- Heavier stacks first, equal weights in the order of their text. -/
def precedes (a b : Collapsed) : Bool :=
  b.weight < a.weight || (a.weight == b.weight && a.stack ≤ b.stack)

/-- Frames from the outermost inwards as one text. -/
def join (names : List String) : String := ";".intercalate names

/-- The lines of stacks, without an end of line after the last one. -/
def text (collapsed : List Collapsed) : String := "\n".intercalate (collapsed.map line)

end Collapsed

/-- The stack of an entry. -/
def Entry.collapse (e : Entry String) : Collapsed :=
  { stack := if e.isOverflow then overflowName
      else Collapsed.join (e.functions.reverse.map frameText)
    weight := e.count }

/-- The stacks of a snapshot that have samples, the heaviest first. -/
def Snapshot.collapse (s : Snapshot String) : List Collapsed :=
  ((s.entries.filter fun e => 0 < e.count).map Entry.collapse).mergeSort Collapsed.precedes

end StackSampler
