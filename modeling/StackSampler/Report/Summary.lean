import StackSampler.Report.Distribution
import StackSampler.Text.Align

/-!
# The summary for terminals

Two tables in coloured text: the hottest stacks with samples and shares, and the leaves of the first
five with bars.
-/

namespace StackSampler.Summary

open Text

def reset : List Char := "\x1b[0m".toList

/-- Gray for the samples of evicted stacks, yellow for all others. -/
def colour (c : Collapsed) : List Char :=
  if c.leaf = overflowName then "\x1b[90m".toList else "\x1b[33m".toList

/-- A share with one decimal and the sign. -/
def share (width : Nat) (percent : Float) : List Char :=
  padLeft width (Decimal.fixed 1 percent) ++ ['%']

/-- A line of the frame of the table. -/
def rule (left middle right : Char) : List Char :=
  ' ' :: ' ' :: left :: List.replicate 50 '━' ++ middle :: List.replicate 12 '━' ++
    middle :: List.replicate 9 '━' ++ [right]

/-- A line of the table. -/
def row (stack samples share : List Char) : List Char :=
  "  ┃ ".toList ++ stack ++ " ┃ ".toList ++ samples ++ " ┃ ".toList ++ share ++ " ┃".toList

def header : List Char :=
  row (padRight 48 "Stack (Hottest First)".toList) (center 10 "SAMPLES".toList)
    (center 7 "%".toList)

/-- A stack, of which at least the end is kept. -/
def stackRow (total : Nat) (c : Collapsed) : List Char :=
  row (colour c ++ padRight 48 (keepEnd 48 c.stack.toList) ++ reset)
    (padLeft 10 (Decimal.digits c.weight)) (share 6 (percentOf c.weight total))

/-- A bar of one block for each two percent. -/
def bar (percent : Float) : List Char := List.replicate (percent / 2.0).toUInt64.toNat '█'

def leafRow (total : Nat) (c : Collapsed) : List Char :=
  let percent := percentOf c.weight total
  "  └─ ".toList ++ colour c ++ padRight 20 c.leaf.toList ++ reset ++ ' ' :: colour c ++
    padRight 50 (bar percent) ++ reset ++ ' ' :: share 5 percent

/-- How many stacks were left out of the first table. -/
def remark (count lines : Nat) : List (List Char) :=
  if lines < count then
    [[], "   (Showing top ".toList ++ Decimal.digits lines ++ " of ".toList ++
      Decimal.digits count ++ " unique stacks)".toList]
  else []

/-- The summary of stacks, at most `lines` of them in the first table. Shares are of `samples`, or
of one where there are none. -/
def lines (collapsed : List Collapsed) (lines samples : Nat) : List (List Char) :=
  let total := max samples 1
  ["  HOT STACKS".toList, rule '┏' '┳' '┓', header, rule '┣' '╋' '┫'] ++
    (collapsed.take lines).map (stackRow total) ++
    [rule '┗' '┻' '┛', [], "  LEAF FUNCTIONS".toList] ++
    (collapsed.take 5).map (leafRow total) ++ remark collapsed.length lines

def text (collapsed : List Collapsed) (count samples : Nat) : String :=
  "\n".intercalate ((lines collapsed count samples).map String.ofList)

end StackSampler.Summary
