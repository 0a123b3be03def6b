import PortRelease.Text.Words
/-!
# Decimal numerals

A numeral that is read consists of ASCII digits and nothing else; one plus sign may stand in front of them,
leading zeros are allowed, and a signed numeral may have one minus sign instead. A value outside the asked
range is no numeral of that range. A numeral that is written has no sign and no leading zero, so it reads back
(`readNat_render`).
-/

namespace PortRelease.Numeral

/-- How many values 32 bits can have. -/
abbrev limit32 : Nat := 4294967296

/-- How many values 64 bits can have. -/
abbrev limit64 : Nat := 18446744073709551616

/-- How many values 64 bits have on either side of zero. -/
abbrev limit64Signed : Nat := 9223372036854775808

/-- The value of a non-empty text of ASCII digits. -/
def ofDigits? (s : Text) : Option Nat :=
  if s ≠ [] ∧ s.all Char.isDigit then some (Nat.ofDigitChars 10 s 0) else none

/-- Reads a numeral without a minus sign. -/
def readNat? : Text → Option Nat
  | '+' :: digits => ofDigits? digits
  | digits => ofDigits? digits

/-- Reads a numeral whose value is below `limit`. -/
def readBelow? (limit : Nat) (s : Text) : Option Nat :=
  (readNat? s).filter fun n => decide (n < limit)

/-- Reads a signed numeral whose value lies from `-limit` to `limit - 1`. -/
def readSigned? (limit : Nat) : Text → Option Int
  | '-' :: digits => ((ofDigits? digits).filter fun n => decide (n ≤ limit)).map fun n => -(n : Int)
  | s => (readBelow? limit s).map Int.ofNat

/-- Writes a number in decimal. -/
def render (n : Nat) : Text := Nat.toDigits 10 n

theorem ofDigits?_render (n : Nat) : ofDigits? (render n) = some n := by
  have digits : (render n).all Char.isDigit = true :=
    List.all_eq_true.2 fun _ hc => Nat.isDigit_of_mem_toDigits (by decide) (by decide) hc
  have nonempty : render n ≠ [] := Nat.toDigits_ne_nil
  rw [ofDigits?, if_pos ⟨nonempty, digits⟩, render, Nat.ofDigitChars_toDigits (by decide) (by decide)]

/-- **What is written reads back.** -/
theorem readNat_render (n : Nat) : readNat? (render n) = some n := by
  rw [← ofDigits?_render n]
  unfold readNat?
  split
  next digits h =>
    have plus : ('+' : Char).isDigit = true :=
      Nat.isDigit_of_mem_toDigits (b := 10) (n := n) (by decide) (by decide) (by
        show '+' ∈ render n
        rw [h]; simp)
    simp at plus
  next => rfl

theorem readBelow?_render {limit n : Nat} (h : n < limit) : readBelow? limit (render n) = some n := by
  simp [readBelow?, readNat_render, h]

end PortRelease.Numeral
