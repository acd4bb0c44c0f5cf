import StackSampler.Decimal.Digits

/-!
# Spans of time

A span is a number of seconds and of nanoseconds below a second. Sampling intervals and recording
times are spans.
-/

namespace StackSampler

/-- A length of time; `nanos` stays below a second. -/
structure Span where
  secs : Nat
  nanos : Nat := 0
  deriving DecidableEq, Repr, Inhabited

namespace Span

def nanosPerSec : Nat := 1000000000

def zero : Span := ⟨0, 0⟩

def isZero (s : Span) : Bool := s.secs == 0 && s.nanos == 0

def ofMillis (n : Nat) : Span := ⟨n / 1000, n % 1000 * 1000000⟩

def ofNanos (n : Nat) : Span := ⟨n / nanosPerSec, n % nanosPerSec⟩

def toNanos (s : Span) : Nat := s.secs * nanosPerSec + s.nanos

/-- Whether `s` is the longer of the two. -/
def longer (s t : Span) : Bool := t.secs < s.secs || (t.secs == s.secs && t.nanos < s.nanos)

/-- A whole number of units and a fraction of `places` digits, of which trailing zeros are left
out, the point too where nothing remains. -/
def amount (whole fraction places : Nat) : String :=
  let ds := Decimal.dropTrailingZeros (Decimal.padded places fraction)
  String.ofList (Decimal.digits whole ++ if ds.isEmpty then [] else '.' :: ds)

/-- The span in its largest unit among s, ms, µs and ns of which it holds at least one. -/
def text (s : Span) : String :=
  if 0 < s.secs then amount s.secs s.nanos 9 ++ "s"
  else if 1000000 ≤ s.nanos then amount (s.nanos / 1000000) (s.nanos % 1000000) 6 ++ "ms"
  else if 1000 ≤ s.nanos then amount (s.nanos / 1000) (s.nanos % 1000) 3 ++ "µs"
  else amount s.nanos 0 0 ++ "ns"

end Span

end StackSampler
