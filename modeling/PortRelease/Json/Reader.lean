import PortRelease.Json.Basic
/-!
# Reading JSON

The grammar of RFC 8259 and nothing beside it: no comments, no trailing commas, no other quotes, and only the
space, the tab, the line feed and the carriage return between tokens. Characters below U+0020 do not stand
in strings, and nothing but such space follows the value.

A reader takes a text and gives what it read and the rest of the text. The readers of values, items and
members call each other on shorter and shorter rests; twice the length of the text bounds how deep.
-/

namespace PortRelease.Json

/-! ## Space, strings -/

/-- The characters that may stand between tokens. -/
def isSpace (c : Char) : Bool := c = ' ' || c = '\t' || c = '\n' || c = '\r'

/-- A text without the space at its start. -/
def skipSpace (s : Text) : Text := s.dropWhile isSpace

/-- The value of a hexadecimal digit. -/
def hexDigit? (c : Char) : Option Nat :=
  if '0' ≤ c ∧ c ≤ '9' then some (c.toNat - 48)
  else if 'a' ≤ c ∧ c ≤ 'f' then some (c.toNat - 87)
  else if 'A' ≤ c ∧ c ≤ 'F' then some (c.toNat - 55)
  else none

/-- The value of four hexadecimal digits. -/
def hexCode? (a b c d : Char) : Option Nat := do
  return (((← hexDigit? a) * 16 + (← hexDigit? b)) * 16 + (← hexDigit? c)) * 16 + (← hexDigit? d)

/-- The character that a backslash and this character spell. -/
def escaped? : Char → Option Char
  | '"' => some '"'
  | '\\' => some '\\'
  | '/' => some '/'
  | 'b' => some '\x08'
  | 'f' => some '\x0c'
  | 'n' => some '\n'
  | 'r' => some '\r'
  | 't' => some '\t'
  | _ => none

/-- A part of a string literal: a character, or a code that stands for one or for half of one. -/
inductive StringPart where
  | char (c : Char)
  | code (n : Nat)
  deriving DecidableEq

/-- The parts of a string literal, after its opening quote. -/
def readParts : Text → Option (List StringPart × Text)
  | [] => none
  | '"' :: rest => some ([], rest)
  | '\\' :: 'u' :: a :: b :: c :: d :: rest => do
    let n ← hexCode? a b c d
    let (parts, rest) ← readParts rest
    return (.code n :: parts, rest)
  | '\\' :: e :: rest => do
    let c ← escaped? e
    let (parts, rest) ← readParts rest
    return (.char c :: parts, rest)
  | c :: rest =>
    if c.toNat < 0x20 then none
    else do
      let (parts, rest) ← readParts rest
      return (.char c :: parts, rest)

/-- Codes that stand for the first half of a character. -/
def isLeading (n : Nat) : Bool := 0xD800 ≤ n && n ≤ 0xDBFF

/-- Codes that stand for the second half of a character. -/
def isTrailing (n : Nat) : Bool := 0xDC00 ≤ n && n ≤ 0xDFFF

/-- The text that some parts spell: a leading half must have a trailing half right behind it, and a trailing
half must have a leading one right before it. -/
def denoted : List StringPart → Literal
  | [] => some []
  | .char c :: rest => (denoted rest).map (c :: ·)
  | .code n :: .code m :: rest =>
    if isLeading n then
      if isTrailing m then
        (denoted rest).map (Char.ofNat (0x10000 + (n - 0xD800) * 0x400 + (m - 0xDC00)) :: ·)
      else none
    else if isTrailing n then none
    else (denoted (.code m :: rest)).map (Char.ofNat n :: ·)
  | .code n :: rest =>
    if isLeading n || isTrailing n then none else (denoted rest).map (Char.ofNat n :: ·)

/-- A string literal, after its opening quote. -/
def readString (s : Text) : Option (Literal × Text) := do
  let (parts, rest) ← readParts s
  return (denoted parts, rest)

/-! ## Numbers -/

/-- At least one digit, and what follows the digits. -/
def readDigits (s : Text) : Option (Text × Text) :=
  match s.takeWhile Char.isDigit with
  | [] => none
  | digits => some (digits, s.dropWhile Char.isDigit)

/-- The digits before the point: a zero alone, or digits that start with another one. -/
def readWhole : Text → Option (Text × Text)
  | '0' :: rest => some (['0'], rest)
  | s => readDigits s

/-- A fraction, if one starts here. -/
def readFraction : Text → Option (Option Text × Text)
  | '.' :: rest => do
    let (digits, rest) ← readDigits rest
    return (some digits, rest)
  | s => some (none, s)

/-- The sign of an exponent: whether it is a minus sign, and what follows it. -/
def readSign : Text → Bool × Text
  | '-' :: rest => (true, rest)
  | '+' :: rest => (false, rest)
  | s => (false, s)

/-- An exponent, if one starts here. -/
def readExponent : Text → Option (Option (Bool × Text) × Text)
  | c :: rest =>
    if c = 'e' ∨ c = 'E' then do
      let (negative, rest) := readSign rest
      let (digits, rest) ← readDigits rest
      return (some (negative, digits), rest)
    else some (none, c :: rest)
  | [] => some (none, [])

/-- A number. -/
def readNumber (s : Text) : Option (Number × Text) := do
  let (negative, s) := match s with
    | '-' :: rest => (true, rest)
    | _ => (false, s)
  let (whole, s) ← readWhole s
  let (fraction, s) ← readFraction s
  let (exponent, s) ← readExponent s
  return (⟨negative, whole, fraction, exponent⟩, s)

/-! ## Values -/

mutual

/-- A value, after any space. -/
def readValue : (bound : Nat) → Text → Option (Json × Text)
  | 0, _ => none
  | bound + 1, s =>
    match skipSpace s with
    | '{' :: rest =>
      match skipSpace rest with
      | '}' :: rest => some (.object [], rest)
      | rest => (readMembers bound rest).map fun (members, rest) => (.object members, rest)
    | '[' :: rest =>
      match skipSpace rest with
      | ']' :: rest => some (.array [], rest)
      | rest => (readItems bound rest).map fun (items, rest) => (.array items, rest)
    | '"' :: rest => (readString rest).map fun (literal, rest) => (.string literal, rest)
    | 't' :: 'r' :: 'u' :: 'e' :: rest => some (.bool true, rest)
    | 'f' :: 'a' :: 'l' :: 's' :: 'e' :: rest => some (.bool false, rest)
    | 'n' :: 'u' :: 'l' :: 'l' :: rest => some (.null, rest)
    | rest => (readNumber rest).map fun (n, rest) => (.number n, rest)

/-- One or more items, and the bracket that closes the array. -/
def readItems : (bound : Nat) → Text → Option (List Json × Text)
  | 0, _ => none
  | bound + 1, s => do
    let (item, rest) ← readValue bound s
    match skipSpace rest with
    | ',' :: rest => do
      let (items, rest) ← readItems bound rest
      return (item :: items, rest)
    | ']' :: rest => return ([item], rest)
    | _ => none

/-- One or more members, and the brace that closes the object. -/
def readMembers : (bound : Nat) → Text → Option (List (Literal × Json) × Text)
  | 0, _ => none
  | bound + 1, s =>
    match skipSpace s with
    | '"' :: rest => do
      let (name, rest) ← readString rest
      match skipSpace rest with
      | ':' :: rest => do
        let (value, rest) ← readValue bound rest
        match skipSpace rest with
        | ',' :: rest => do
          let (members, rest) ← readMembers bound rest
          return ((name, value) :: members, rest)
        | '}' :: rest => return ([(name, value)], rest)
        | _ => none
      | _ => none
    | _ => none

end

/-- **The value that a text spells**, if it spells one. -/
def read? (s : Text) : Option Json :=
  match readValue (2 * s.length + 1) s with
  | some (value, rest) => if skipSpace rest = [] then some value else none
  | none => none

end PortRelease.Json
