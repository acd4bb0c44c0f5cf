import StackSampler.Decimal.Fixed
import StackSampler.Report.Collapsed

/-!
# The distribution of samples

How the samples of a profile spread over its stacks: the share of the heaviest ones, and mean,
median and concentration over all of them. Shares are floats in percent.
-/

namespace StackSampler

/-- `part` of `total` in percent; nothing of nothing is none. -/
def percentOf (part total : Nat) : Float :=
  if 0 < total then part.toUInt64.toFloat / total.toUInt64.toFloat * 100.0 else 0.0

/-- A stack and its share. -/
structure HotStack where
  stack : String
  samples : Nat
  percent : Float
  deriving Repr

/-- The first `n` stacks with their shares of `total`. -/
def hotStacks (collapsed : List Collapsed) (total n : Nat) : List HotStack :=
  (collapsed.take n).map fun c => ⟨c.stack, c.weight, percentOf c.weight total⟩

structure Distribution where
  total : Nat := 0
  /-- The number of stacks. -/
  size : Nat := 0
  mean : Nat := 0
  median : Nat := 0
  /-- The samples of the heaviest tenth of the stacks. -/
  topTenth : Nat := 0
  topTenthPercent : Float := 0.0
  deriving Repr

namespace Distribution

def totalWeight (collapsed : List Collapsed) : Nat := StackSampler.total (collapsed.map Collapsed.weight)

/-- The weight that stands in the middle, the upper one of two. -/
def medianOf (weights : List Nat) : Nat :=
  (weights.mergeSort (· ≤ ·)).getD (weights.length / 2) 0

/-- A tenth of `n`, rounded up. -/
def tenth (n : Nat) : Nat := (n + 9) / 10

/-- The distribution over stacks that are sorted by weight. The mean is rounded down. -/
def ofStacks (collapsed : List Collapsed) : Distribution :=
  if collapsed.isEmpty then {}
  else
    let total := totalWeight collapsed
    let topTenth := totalWeight (collapsed.take (tenth collapsed.length))
    { total
      size := collapsed.length
      mean := total / collapsed.length
      median := medianOf (collapsed.map Collapsed.weight)
      topTenth
      topTenthPercent := percentOf topTenth total }

variable (d : Distribution)

/-- Whether a tenth of the stacks holds more than four fifths of the samples. -/
def isConcentrated : Bool := d.topTenthPercent > 80.0

/-- The distribution on one line. -/
def summary : String :=
  "Total: " ++ Nat.repr d.total ++ " samples | Stacks: " ++ Nat.repr d.size ++
    " | Mean: " ++ Nat.repr d.mean ++ " | Median: " ++ Nat.repr d.median ++
    " | Top 10%: " ++ String.ofList (Decimal.fixed 1 d.topTenthPercent) ++ "%"

end Distribution

end StackSampler
