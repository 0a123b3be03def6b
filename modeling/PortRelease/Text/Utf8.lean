import PortRelease.Text.Words
/-!
# UTF-8

Files and the output of tools are octets; what the library reads are characters. One scan cuts the octets
into pieces: a character, a malformed stretch, or a character that the end of the input cuts short. Strict
decoding refuses the first piece that is not a character and says where it starts; lenient decoding writes
U+FFFD for each such piece.

A malformed stretch is as long as the longest start of some character that it is, and at least one octet.
-/

namespace PortRelease.Utf8

/-- The octets of a text. -/
def encode (s : Text) : List UInt8 := s.flatMap String.utf8EncodeChar

/-- What the scan finds at one place. -/
inductive Piece where
  /-- A character. -/
  | char (c : Char)
  /-- This many octets that start no character. -/
  | malformed (size : Nat)
  /-- The start of a character at the end of the input. -/
  | truncated
  deriving DecidableEq

/-- What a lead octet announces: how many octets follow it, the value of its own bits, and the least and the
greatest octet allowed in second place. Those bounds exclude overlong forms, surrogates and values above
U+10FFFF. -/
structure Lead where
  owed : Nat
  bits : Nat
  low : Nat
  high : Nat

/-- The lead octets; all others start no character. -/
def lead? (octet : Nat) : Option Lead :=
  if octet ≤ 0x7F then some ⟨0, octet, 0x80, 0xBF⟩
  else if 0xC2 ≤ octet ∧ octet ≤ 0xDF then some ⟨1, octet - 0xC0, 0x80, 0xBF⟩
  else if octet = 0xE0 then some ⟨2, 0, 0xA0, 0xBF⟩
  else if octet = 0xED then some ⟨2, 0xD, 0x80, 0x9F⟩
  else if 0xE1 ≤ octet ∧ octet ≤ 0xEF then some ⟨2, octet - 0xE0, 0x80, 0xBF⟩
  else if octet = 0xF0 then some ⟨3, 0, 0x90, 0xBF⟩
  else if 0xF1 ≤ octet ∧ octet ≤ 0xF3 then some ⟨3, octet - 0xF0, 0x80, 0xBF⟩
  else if octet = 0xF4 then some ⟨3, 4, 0x80, 0x8F⟩
  else none

/-- Reads the octets that a character still owes: `taken` octets of it are read and their bits are `bits`; the
next octet lies from `low` to `high`, and the later ones from 80 to BF. -/
def continueChar (taken bits : Nat) : (owed low high : Nat) → List UInt8 → Piece × List UInt8
  | 0, _, _, rest => (.char (Char.ofNat bits), rest)
  | _ + 1, _, _, [] => (.truncated, [])
  | owed + 1, low, high, octet :: rest =>
    if low ≤ octet.toNat ∧ octet.toNat ≤ high then
      continueChar (taken + 1) (bits * 64 + (octet.toNat - 0x80)) owed 0x80 0xBF rest
    else (.malformed taken, octet :: rest)

/-- The piece that starts with `octet`, and the octets after it. -/
def next (octet : UInt8) (rest : List UInt8) : Piece × List UInt8 :=
  match lead? octet.toNat with
  | some lead => continueChar 1 lead.bits lead.owed lead.low lead.high rest
  | none => (.malformed 1, rest)

theorem length_continueChar_le (taken bits owed low high : Nat) (rest : List UInt8) :
    (continueChar taken bits owed low high rest).2.length ≤ rest.length := by
  fun_induction continueChar taken bits owed low high rest with
  | case1 => exact Nat.le_refl _
  | case2 => exact Nat.le_refl _
  | case3 _ _ _ _ _ _ _ _ ih => exact Nat.le_succ_of_le ih
  | case4 => exact Nat.le_refl _

theorem length_next_le (octet : UInt8) (rest : List UInt8) : (next octet rest).2.length ≤ rest.length := by
  unfold next
  split
  · exact length_continueChar_le ..
  · exact Nat.le_refl _

/-- The pieces of an octet sequence, in order. -/
def scan : List UInt8 → List Piece
  | [] => []
  | octet :: rest => (next octet rest).1 :: scan (next octet rest).2
termination_by octets => octets.length
decreasing_by exact Nat.lt_succ_of_le (length_next_le octet rest)

/-- Why an octet sequence is no text. -/
inductive Fault where
  /-- `size` octets at `index` start no character. -/
  | malformed (size index : Nat)
  /-- The input ends inside the character that starts at `index`. -/
  | truncated (index : Nat)
  deriving DecidableEq

/-- The wording of a fault. -/
def Fault.message : Fault → String
  | .malformed size index => s!"invalid utf-8 sequence of {size} bytes from index {index}"
  | .truncated index => s!"incomplete utf-8 byte sequence from index {index}"

/-- The characters of the pieces, if all are characters; `index` octets stand before them. -/
def collect (index : Nat) : List Piece → Except Fault Text
  | [] => .ok []
  | .char c :: rest => (collect (index + c.utf8Size) rest).map (c :: ·)
  | .malformed size :: _ => .error (.malformed size index)
  | .truncated :: _ => .error (.truncated index)

/-- **Strict decoding**: a text, or the first fault. -/
def decode (octets : List UInt8) : Except Fault Text := collect 0 (scan octets)

/-- **Lenient decoding**: whatever is no character reads as one U+FFFD. -/
def decodeLenient (octets : List UInt8) : Text :=
  (scan octets).map fun
    | .char c => c
    | _ => '\uFFFD'

end PortRelease.Utf8
