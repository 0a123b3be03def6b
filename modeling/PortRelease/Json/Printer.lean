import PortRelease.Json.Basic
/-!
# Writing JSON

Two layouts: compact, without any space, and indented, with one item or member to a line, two spaces to a
level, and one space after a colon. Empty arrays and objects are `[]` and `{}` in both. In strings the quote,
the backslash and the characters below U+0020 are escaped, in the short form where there is one; all other
characters stand for themselves.
-/

namespace PortRelease.Json

/-- A hexadecimal digit, in lower case. -/
def hexDigit (n : Nat) : Char := Char.ofNat (if n < 10 then 48 + n else 87 + n)

/-- A character inside a string literal. -/
def escape (c : Char) : Text :=
  if c = '"' then ['\\', '"']
  else if c = '\\' then ['\\', '\\']
  else if c = '\x08' then ['\\', 'b']
  else if c = '\x0c' then ['\\', 'f']
  else if c = '\n' then ['\\', 'n']
  else if c = '\r' then ['\\', 'r']
  else if c = '\t' then ['\\', 't']
  else if c.toNat < 0x20 then ['\\', 'u', '0', '0', hexDigit (c.toNat / 16), hexDigit (c.toNat % 16)]
  else [c]

/-- A string literal. One that denotes no text is spelled as half of a surrogate pair. -/
def writeString : Literal → Text
  | some s => '"' :: s.flatMap escape ++ ['"']
  | none => "\"\\ud800\"".toList

/-- A number, as it was spelled. -/
def writeNumber (n : Number) : Text :=
  (if n.negative then ['-'] else []) ++ n.whole ++
    (match n.fraction with
      | some digits => '.' :: digits
      | none => []) ++
    (match n.exponent with
      | some (negative, digits) => 'e' :: (if negative then ['-'] else []) ++ digits
      | none => [])

mutual

/-- A value in the compact layout. -/
def compact : Json → Text
  | .null => "null".toList
  | .bool true => "true".toList
  | .bool false => "false".toList
  | .number n => writeNumber n
  | .string literal => writeString literal
  | .array items => '[' :: Text.join [','] (compactItems items) ++ [']']
  | .object members => '{' :: Text.join [','] (compactMembers members) ++ ['}']

/-- Items in the compact layout. -/
def compactItems : List Json → List Text
  | [] => []
  | item :: rest => compact item :: compactItems rest

/-- Members in the compact layout. -/
def compactMembers : List (Literal × Json) → List Text
  | [] => []
  | (name, value) :: rest => (writeString name ++ ':' :: compact value) :: compactMembers rest

end

/-- A line feed and the indentation of a level. -/
def newline (level : Nat) : Text := '\n' :: List.replicate (2 * level) ' '

/-- Parts between two brackets, each on a line of its own one level further in. -/
def bracketed (opening closing : Char) (level : Nat) : List Text → Text
  | [] => [opening, closing]
  | parts =>
    opening :: newline (level + 1) ++ Text.join (',' :: newline (level + 1)) parts ++
      (newline level ++ [closing])

mutual

/-- A value in the indented layout, at a level. -/
def indentedAt (level : Nat) : Json → Text
  | .array items => bracketed '[' ']' level (indentedItems (level + 1) items)
  | .object members => bracketed '{' '}' level (indentedMembers (level + 1) members)
  | scalar => compact scalar

/-- Items in the indented layout. -/
def indentedItems (level : Nat) : List Json → List Text
  | [] => []
  | item :: rest => indentedAt level item :: indentedItems level rest

/-- Members in the indented layout. -/
def indentedMembers (level : Nat) : List (Literal × Json) → List Text
  | [] => []
  | (name, value) :: rest =>
    (writeString name ++ ':' :: ' ' :: indentedAt level value) :: indentedMembers level rest

end

/-- **A value in the indented layout.** -/
def indented (j : Json) : Text := indentedAt 0 j

end PortRelease.Json
