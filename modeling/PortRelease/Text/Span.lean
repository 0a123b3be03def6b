import PortRelease.Text.Numeral
/-!
# The text of a time span

A span is written in the largest of the units second, millisecond, microsecond and nanosecond in which it is
at least one, with as many decimals as it needs: `5s`, `1.5s`, `250ms`, `1.001ms`, `0ns`.
-/

namespace PortRelease

/-- A time span, in nanoseconds. -/
structure Span where
  nanoseconds : Nat
  deriving DecidableEq

namespace Span

/-- A span of whole milliseconds. -/
def ofMilliseconds (n : Nat) : Span := ⟨n * 1000000⟩

/-- A span of whole seconds and nanoseconds. -/
def ofSeconds (seconds nanoseconds : Nat) : Span := ⟨seconds * 1000000000 + nanoseconds⟩

/-- A unit of time: its sign, and how many decimals of it make a nanosecond. -/
structure TimeUnit where
  sign : String
  places : Nat

/-- The nanoseconds in a unit. -/
def TimeUnit.size (unit : TimeUnit) : Nat := Nat.pow 10 unit.places

/-- The units, the largest first. -/
def units : List TimeUnit := [⟨"s", 9⟩, ⟨"ms", 6⟩, ⟨"µs", 3⟩, ⟨"ns", 0⟩]

/-- The decimals of `part / 10 ^ places`, without trailing zeros. -/
def decimals (places part : Nat) : Text :=
  let digits := Numeral.render part
  let padded := List.replicate (places - digits.length) '0' ++ digits
  (padded.reverse.dropWhile (· = '0')).reverse

/-- The span as a decimal number of a unit. -/
def renderIn (unit : TimeUnit) (span : Span) : Text :=
  let whole := span.nanoseconds / unit.size
  let part := span.nanoseconds % unit.size
  let point := if part = 0 then [] else '.' :: decimals unit.places part
  Numeral.render whole ++ point ++ unit.sign.toList

/-- The unit in which a span is written. -/
def unit (span : Span) : TimeUnit :=
  (units.find? fun unit => unit.size ≤ span.nanoseconds).getD ⟨"ns", 0⟩

/-- **The text of a span.** -/
def render (span : Span) : String := String.ofList (renderIn span.unit span)

example : (ofMilliseconds 1500).render = "1.5s" := by decide
example : (ofMilliseconds 90).render = "90ms" := by decide
example : (⟨1001000⟩ : Span).render = "1.001ms" := by decide
example : (⟨0⟩ : Span).render = "0ns" := by decide

end Span

end PortRelease
