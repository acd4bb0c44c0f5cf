import StackSampler.Text.Extending
import StackSampler.Text.Formless

/-!
# Visible quoting

Text quoted for a message: every character that would not show by itself stands as an escape. A mark
that extends the character before it does not show by itself either.
-/

namespace StackSampler.Text

/-- One character between double quotes: a letter escape where there is one, the number in braces
for other characters that would not show. -/
def escapeVisibly (c : Char) : List Char :=
  if c = '"' then ['\\', '"']
  else if c = '\\' then ['\\', '\\']
  else if c = '\n' then ['\\', 'n']
  else if c = '\r' then ['\\', 'r']
  else if c = '\t' then ['\\', 't']
  else if c.toNat = 0 then ['\\', '0']
  else if isExtending c || isFormless c then
    '\\' :: 'u' :: '\x7b' :: Nat.toDigits 16 c.toNat ++ ['\x7d']
  else [c]

def quotedVisibly (s : String) : String :=
  String.ofList ('"' :: s.toList.flatMap escapeVisibly ++ ['"'])

end StackSampler.Text
