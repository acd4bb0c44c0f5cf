/-!
# Alignment

Text put into columns: blanks fill it up to a width, counted in characters, and text that is wider
stays as it is.
-/

namespace StackSampler.Text

/-- Blanks behind. -/
def padRight (width : Nat) (cs : List Char) : List Char :=
  cs ++ List.replicate (width - cs.length) ' '

/-- Blanks in front. -/
def padLeft (width : Nat) (cs : List Char) : List Char :=
  List.replicate (width - cs.length) ' ' ++ cs

/-- Blanks on both sides, the odd one behind. -/
def center (width : Nat) (cs : List Char) : List Char :=
  let free := width - cs.length
  List.replicate (free / 2) ' ' ++ cs ++ List.replicate (free - free / 2) ' '

/-- The last `width - 3` characters behind an ellipsis, where a text is wider than `width`. -/
def keepEnd (width : Nat) (cs : List Char) : List Char :=
  if width < cs.length then '.' :: '.' :: '.' :: cs.drop (cs.length + 3 - width) else cs

end StackSampler.Text
