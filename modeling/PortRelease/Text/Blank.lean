/-!
# Blank characters

What separates words in the output of a tool and what may surround a value: the Unicode property
White_Space, as a table of ranges. The table is wider than the blanks of core's `Char.isWhitespace`
(`isBlank_of_isWhitespace`): it also holds the vertical tab, the form feed, the next-line control and the
spaces outside ASCII. It does not hold the zero-width space, the byte-order mark or the four information
separators U+001C to U+001F.
-/

namespace PortRelease

/-- The ranges of White_Space, both ends included, in ascending order. -/
def blankRanges : List (Nat × Nat) :=
  [(0x09, 0x0D), (0x20, 0x20), (0x85, 0x85), (0xA0, 0xA0), (0x1680, 0x1680), (0x2000, 0x200A),
   (0x2028, 0x2029), (0x202F, 0x202F), (0x205F, 0x205F), (0x3000, 0x3000)]

/-- **A blank is a character of White_Space.** -/
def isBlank (c : Char) : Bool :=
  blankRanges.any fun range => range.1 ≤ c.toNat && c.toNat ≤ range.2

theorem isBlank_of_isWhitespace {c : Char} (h : c.isWhitespace = true) : isBlank c = true := by
  simp only [Char.isWhitespace, Bool.or_eq_true, decide_eq_true_eq] at h
  rcases h with ((h | h) | h) | h <;> subst h <;> decide

end PortRelease
