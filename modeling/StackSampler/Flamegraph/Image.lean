import StackSampler.Decimal.Fixed
import StackSampler.Flamegraph.Blocks
import StackSampler.Report.Collapsed

/-!
# Flamegraph images

An image is kept as what it says: its title, its width, the number of samples, and a label for each
block that is wide enough to be seen. `render` draws one from collapsed stacks.
-/

namespace StackSampler

/-- What an image should look like. -/
structure FlamegraphConfig where
  title : String := "CPU Profile"
  width : Nat := 1200
  deriving DecidableEq, Repr, Inhabited

/-- Why there is no image. -/
inductive FlamegraphError where
  | emptyStacks
  /-- No line with a stack has samples. -/
  | noCounts
  deriving DecidableEq, Repr

def FlamegraphError.message : FlamegraphError → String
  | .emptyStacks => "Empty stack data"
  | .noCounts => "Flamegraph rendering failed: I/O error: No stack counts found"

namespace Flamegraph

/-- A drawn flamegraph; title and labels are escaped. -/
structure Image where
  title : String
  width : Nat
  samples : Nat
  labels : List String
  deriving DecidableEq, Repr, Inhabited

/-- A character as markup has it. -/
def escapeMarkup (c : Char) : List Char :=
  if c = '<' then "&lt;".toList
  else if c = '>' then "&gt;".toList
  else if c = '&' then "&amp;".toList
  else if c = '\'' then "&apos;".toList
  else if c = '"' then "&quot;".toList
  else [c]

/-- The narrowest block to be drawn, in percent of the width. -/
def narrowest : Float := 0.01

/-- The samples that the narrowest block has. -/
def fewestSamples (total : Nat) : Float := narrowest / (100.0 / total.toUInt64.toFloat)

/-- The samples of a block, from the places of its ends on the line as floats. -/
def Block.extent (b : Block) : Float := b.stop.toUInt64.toFloat - b.start.toUInt64.toFloat

/-- A name without the mark that tells what kind of code it is: `_[k]`, `_[w]`, `_[i]` or `_[j]` at
the end. -/
def plainName (name : List Char) : List Char :=
  match name.reverse with
  | ']' :: c :: '[' :: '_' :: rest => if c ∈ ['k', 'w', 'i', 'j'] then rest.reverse else name
  | _ => name

/-- A share with two decimals. -/
def percentText (percent : Float) : List Char := Decimal.fixed 2 percent ++ ['%']

/-- The change in percent of all samples. No change has no sign. -/
def deltaText (delta : Int) (total : Nat) : List Char :=
  let size := (100 * delta.natAbs).toUInt64.toFloat / total.toUInt64.toFloat
  if delta = 0 then "0.00%".toList
  else if delta < 0 then '-' :: percentText size
  else '+' :: percentText size

/-- What a block says: its name, its samples and its share of all. -/
def Block.label (b : Block) (total : Nat) : List Char :=
  let shown := b.samples.toUInt64.toFloat.toUInt64.toNat
  let count := Decimal.grouped shown ++ " samples, ".toList
  if b.isRoot then "all (".toList ++ count ++ "100%)".toList
  else
    let percent := (100 * shown).toUInt64.toFloat / total.toUInt64.toFloat
    let change := match b.delta with
      | none => []
      | some delta => ';' :: ' ' :: deltaText delta total
    plainName b.name ++ " (".toList ++ count ++ percentText percent ++ change ++ [')']

/-- Draws collapsed stacks. -/
def render (collapsed : List Collapsed) (config : FlamegraphConfig) : Except FlamegraphError Image := do
  if collapsed.isEmpty then throw .emptyStacks
  let (all, total) := blocks (readLines (collapsed.map Collapsed.line))
  if total = 0 then throw .noCounts
  let least := fewestSamples total
  let drawn := all.filter fun b => !(b.extent < least)
  let escaped (cs : List Char) : String := String.ofList (cs.flatMap escapeMarkup)
  return {
    title := escaped config.title.toList
    width := config.width
    samples := total
    labels := drawn.map fun b => escaped (b.label total) }

/-- The image as a vector graphic: one group with a title for each label. -/
def Image.markup (i : Image) : String :=
  let group (label : String) : String := "<g><title>" ++ label ++ "</title></g>\n"
  "<?xml version=\"1.0\" standalone=\"no\"?>\n<svg version=\"1.1\" width=\"" ++ Nat.repr i.width ++
    "\" xmlns=\"http://www.w3.org/2000/svg\">\n<text id=\"title\">" ++ i.title ++
    "</text>\n<g id=\"frames\" total_samples=\"" ++ Nat.repr i.samples ++ "\">\n" ++
    String.join (i.labels.map group) ++ "</g>\n</svg>\n"

end Flamegraph

end StackSampler
