import PortRelease.Text.Numeral
/-!
# JSON values

A value as its text spells it: a number keeps its digits, so that an integer is told apart from the same value
written with a fraction or an exponent, and a record keeps its members in order, repeated names included.

A string literal can spell half of a surrogate pair; such a literal is well-formed JSON but denotes no text.
-/

namespace PortRelease

namespace Json

/-- The text that a string literal denotes, if it denotes one. -/
abbrev Literal := Option Text

/-- A number as it is spelled. -/
structure Number where
  negative : Bool
  whole : Text
  fraction : Option Text
  /-- Whether a minus sign stands before the exponent, and the exponent's digits. -/
  exponent : Option (Bool × Text)
  deriving DecidableEq

namespace Number

/-- The spelling of a natural number. -/
def ofNat (n : Nat) : Number := ⟨false, Numeral.render n, none, none⟩

/-- The value of a number that is spelled as a natural number; `-0`, `1.0` and `1e0` are not. -/
def toNat? (n : Number) : Option Nat :=
  if n.negative = false ∧ n.fraction = none ∧ n.exponent = none then Numeral.ofDigits? n.whole else none

@[simp] theorem toNat?_ofNat (n : Nat) : (ofNat n).toNat? = some n := by
  simp [ofNat, toNat?, Numeral.ofDigits?_render]

/-- The whole digits with the fraction's behind them, without leading zeros. -/
def significant (n : Number) : Text := (n.whole ++ n.fraction.getD []).dropWhile (· = '0')

/-- The power of ten by which the significant digits are multiplied. -/
def scale (n : Number) : Int :=
  let shift : Int := match n.exponent with
    | some (true, digits) => -(Nat.ofDigitChars 10 digits 0 : Int)
    | some (false, digits) => Nat.ofDigitChars 10 digits 0
    | none => 0
  shift - (n.fraction.getD []).length

/-- **Whether the number is within the range of binary64**, that is, rounds to a finite value there. The number
of digits before the point decides, except where it is 309. -/
def inRange (n : Number) : Bool :=
  let digits := n.significant
  let places : Int := digits.length + n.scale
  if digits = [] ∨ places < 309 then true
  else if 309 < places then false
  else
    let value := Nat.ofDigitChars 10 digits 0
    let limit := Nat.pow 2 1024 - Nat.pow 2 970
    decide (value * Nat.pow 10 n.scale.toNat < limit * Nat.pow 10 (-n.scale).toNat)

end Number

end Json

/-- A JSON value. -/
inductive Json where
  | null
  | bool (b : Bool)
  | number (n : Json.Number)
  | string (s : Json.Literal)
  | array (items : List Json)
  | object (members : List (Json.Literal × Json))

namespace Json

/-- The value of a natural number. -/
def ofNat (n : Nat) : Json := .number (Number.ofNat n)

/-- The value of a text. -/
def ofString (s : String) : Json := .string (some s.toList)

/-- A record with these members. -/
def record (members : List (String × Json)) : Json :=
  .object (members.map fun (name, value) => (some name.toList, value))

/-- A natural number below `limit`. -/
def natBelow? (limit : Nat) : Json → Option Nat
  | .number n => n.toNat?.filter fun value => decide (value < limit)
  | _ => none

/-- A text. -/
def text? : Json → Option Text
  | .string literal => literal
  | _ => none

@[simp] theorem natBelow?_ofNat {limit n : Nat} (h : n < limit) : natBelow? limit (ofNat n) = some n := by
  simp [natBelow?, ofNat, h]

mutual

/-- How many arrays and objects stand around the innermost place of a value. -/
def depth : Json → Nat
  | .array items => depthOfItems items + 1
  | .object members => depthOfMembers members + 1
  | _ => 0

/-- The greatest depth of some items. -/
def depthOfItems : List Json → Nat
  | [] => 0
  | item :: rest => max (depth item) (depthOfItems rest)

/-- The greatest depth of some members' values. -/
def depthOfMembers : List (Literal × Json) → Nat
  | [] => 0
  | (_, value) :: rest => max (depth value) (depthOfMembers rest)

end

mutual

/-- Whether every number is in range and every string, names included, denotes a text. -/
def meaningful : Json → Bool
  | .number n => n.inRange
  | .string literal => literal.isSome
  | .array items => meaningfulItems items
  | .object members => meaningfulMembers members
  | _ => true

/-- Whether every item is meaningful. -/
def meaningfulItems : List Json → Bool
  | [] => true
  | item :: rest => meaningful item && meaningfulItems rest

/-- Whether every member is meaningful. -/
def meaningfulMembers : List (Literal × Json) → Bool
  | [] => true
  | (name, value) :: rest => name.isSome && meaningful value && meaningfulMembers rest

end

/-- **Whether a value can be taken apart later**: it is meaningful and at most 127 levels deep. A value that is
kept before it is known what it is for must be so, whatever then becomes of its parts. -/
def storable (j : Json) : Bool := decide (j.depth ≤ 127) && j.meaningful

/-- The values of the fields `names`, in that order; `none` for a field that is not given. A record gives its
fields as members in any order, each at most once and among any others, or as an array of the first so many of
them. Anything else, or a member whose name is no text, gives nothing. -/
def fields? (names : List Text) : Json → Option (List (Option Json))
  | .object members =>
    if members.all (fun member => member.1.isSome) then
      names.mapM fun name =>
        match members.filter fun member => member.1 == some name with
        | [] => some none
        | [member] => some (some member.2)
        | _ => none
    else none
  | .array items =>
    if items.length ≤ names.length then
      some (items.map some ++ List.replicate (names.length - items.length) none)
    else none
  | _ => none

end Json

end PortRelease
