import StackSampler.Text.Ranges

/-!
# White space

The characters with the Unicode property `White_Space`. Times and weighted stack lines are trimmed
of all of them; JSON has a narrower set of its own.
-/

namespace StackSampler.Text

/-- The blank characters: the five controls from tab to carriage return, the blank, and those outside
ASCII. -/
def blankRanges : Ranges :=
  [(0x9, 0xd), (0x20, 0x20), (0x85, 0x85), (0xa0, 0xa0), (0x1680, 0x1680), (0x2000, 0x200a),
   (0x2028, 0x2029), (0x202f, 0x202f), (0x205f, 0x205f), (0x3000, 0x3000)]

theorem blankRanges_inOrder : blankRanges.inOrder := by decide +kernel

/-- Whether a character is white space. -/
def isBlank (c : Char) : Bool := blankRanges.holds c.toNat

def skipBlank (cs : List Char) : List Char := cs.dropWhile isBlank

/-- Drops white space at the end. -/
def trimEnd (cs : List Char) : List Char := (skipBlank cs.reverse).reverse

/-- Drops white space at both ends. -/
def trim (cs : List Char) : List Char := trimEnd (skipBlank cs)

end StackSampler.Text
