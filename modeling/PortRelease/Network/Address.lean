import PortRelease.Port.Basic
/-!
# Network addresses

The addresses of hosts in both versions of the internet protocol, and endpoints: a host address with a port.

**Reading is strict.** The four numbers of a version 4 address are decimal, below 256 and without leading
zeros. A version 6 address has eight groups of at most four hexadecimal digits; two colons in a row stand once
for at least one group of zeros, and the last two groups may be written as a version 4 address. An endpoint
has a colon and a port behind the address, and a version 6 address then stands in brackets, with a zone number
after a percent sign if it has one.

**Writing is canonical**: the first of the longest runs of at least two zero groups is left out, digits are
lower case, and an address of version 4 inside version 6 keeps its dotted form.
-/

namespace PortRelease

/-- The address of a host. -/
inductive Ip where
  /-- Version 4, as its four numbers. -/
  | v4 (numbers : List Nat)
  /-- Version 6, as its eight groups. -/
  | v6 (groups : List Nat)
  deriving DecidableEq

/-- A host address and a port; `zone` distinguishes interfaces and is 0 for none. -/
structure Endpoint where
  ip : Ip
  zone : Nat
  port : Port
  deriving DecidableEq

namespace Network

/-! ## Reading -/

/-- The value of a digit up to `f`, in either case. -/
def digitValue? (c : Char) : Option Nat :=
  if '0' ≤ c ∧ c ≤ '9' then some (c.toNat - 48)
  else if 'a' ≤ c ∧ c ≤ 'f' then some (c.toNat - 87)
  else if 'A' ≤ c ∧ c ≤ 'F' then some (c.toNat - 55)
  else none

/-- Whether a character is a digit in base `radix`. -/
def isDigitIn (radix : Nat) (c : Char) : Bool := (digitValue? c).any fun d => decide (d < radix)

/-- The value of digits in base `radix`. -/
def valueIn (radix : Nat) (digits : Text) : Nat :=
  digits.foldl (fun n c => n * radix + (digitValue? c).getD 0) 0

/-- A decimal number below 256 without leading zeros, and what follows its digits. -/
def readByte (s : Text) : Option (Nat × Text) :=
  let digits := s.takeWhile (isDigitIn 10)
  if digits = [] ∨ 3 < digits.length ∨ (digits.head? = some '0' ∧ 1 < digits.length) then none
  else if valueIn 10 digits < 256 then some (valueIn 10 digits, s.dropWhile (isDigitIn 10))
  else none

/-- A group of one to four hexadecimal digits, and what follows them. -/
def readGroup (s : Text) : Option (Nat × Text) :=
  let digits := s.takeWhile (isDigitIn 16)
  if digits = [] ∨ 4 < digits.length then none
  else some (valueIn 16 digits, s.dropWhile (isDigitIn 16))

/-- A decimal number below `limit`, leading zeros allowed, and what follows its digits. -/
def readNumber (limit : Nat) (s : Text) : Option (Nat × Text) :=
  let digits := s.takeWhile (isDigitIn 10)
  if digits = [] ∨ limit ≤ valueIn 10 digits then none
  else some (valueIn 10 digits, s.dropWhile (isDigitIn 10))

/-- What follows a character that must stand first. -/
def expect (c : Char) : Text → Option Text
  | [] => none
  | d :: rest => if d = c then some rest else none

/-- The numbers of a version 4 address, and what follows them. -/
def readV4 (s : Text) : Option (List Nat × Text) := do
  let (a, s) ← readByte s
  let (b, s) ← readByte (← expect '.' s)
  let (c, s) ← readByte (← expect '.' s)
  let (d, s) ← readByte (← expect '.' s)
  return ([a, b, c, d], s)

/-- The two groups that a version 4 address makes. -/
def groupsOfV4 : List Nat → List Nat
  | [a, b, c, d] => [a * 256 + b, c * 256 + d]
  | _ => []

/-- As many groups as there are, up to `room`, with colons between them: the groups, whether the last two came
from a version 4 address, and what follows. -/
def readGroups : (room : Nat) → (first : Bool) → Text → List Nat × Bool × Text
  | 0, _, s => ([], false, s)
  | room + 1, first, s =>
    let start? := if first then some s else expect ':' s
    let dotted? := if room = 0 then none else start?.bind readV4
    match dotted? with
    | some (numbers, rest) => (groupsOfV4 numbers, true, rest)
    | none =>
      match start?.bind readGroup with
      | none => ([], false, s)
      | some (group, rest) =>
        let (groups, dotted, rest) := readGroups room false rest
        (group :: groups, dotted, rest)

/-- The groups of a version 6 address, and what follows them. -/
def readV6 (s : Text) : Option (List Nat × Text) :=
  let (head, dotted, rest) := readGroups 8 true s
  if head.length = 8 then some (head, rest)
  else if dotted then none
  else do
    let rest ← expect ':' (← expect ':' rest)
    let (tail, _, rest) := readGroups (7 - head.length) true rest
    return (head ++ List.replicate (8 - head.length - tail.length) 0 ++ tail, rest)

/-- What was read, if nothing follows it. -/
def whole {α : Type} : Option (α × Text) → Option α
  | some (a, []) => some a
  | _ => none

end Network

/-- Reads the address of a host. -/
def Ip.read? (s : Text) : Option Ip :=
  match Network.whole (Network.readV4 s) with
  | some numbers => some (.v4 numbers)
  | none => (Network.whole (Network.readV6 s)).map .v6

namespace Endpoint

/-- A host address and a port, without a zone. -/
def of (ip : Ip) (port : Port) : Endpoint := ⟨ip, 0, port⟩

/-- A colon and a port, up to the end of the text. -/
def readPort? (s : Text) : Option Port := do
  Port.ofNat? (← Network.whole (Network.readNumber 65536 (← Network.expect ':' s)))

/-- A zone, if one starts here, and what follows it. -/
def readZone (s : Text) : Nat × Text :=
  match (Network.expect '%' s).bind (Network.readNumber Numeral.limit32) with
  | some (zone, rest) => (zone, rest)
  | none => (0, s)

/-- Reads an endpoint of version 4. -/
def readV4? (s : Text) : Option Endpoint := do
  let (numbers, s) ← Network.readV4 s
  return ⟨.v4 numbers, 0, ← readPort? s⟩

/-- Reads an endpoint of version 6. -/
def readV6? (s : Text) : Option Endpoint := do
  let (groups, s) ← Network.readV6 (← Network.expect '[' s)
  let (zone, s) := readZone s
  return ⟨.v6 groups, zone, ← readPort? (← Network.expect ']' s)⟩

/-- **Reads an endpoint.** -/
def read? (s : Text) : Option Endpoint := readV4? s <|> readV6? s

end Endpoint

/-! ## Writing -/

namespace Network

/-- Numbers in decimal with points between them. -/
def dotted (numbers : List Nat) : Text := Text.join ['.'] (numbers.map Numeral.render)

/-- Groups in hexadecimal with colons between them. -/
def colons (groups : List Nat) : Text := Text.join [':'] (groups.map (Nat.toDigits 16))

/-- The runs of zeros in a list, each as its start and its length. -/
def zeroRuns : (start : Nat) → List Nat → List (Nat × Nat)
  | _, [] => []
  | start, 0 :: rest =>
    match zeroRuns (start + 1) rest with
    | (next, length) :: runs =>
      if next = start + 1 then (start, length + 1) :: runs else (start, 1) :: (next, length) :: runs
    | [] => [(start, 1)]
  | start, _ :: rest => zeroRuns (start + 1) rest

/-- The first of the longest runs. -/
def longest : List (Nat × Nat) → Option (Nat × Nat)
  | [] => none
  | run :: rest =>
    match longest rest with
    | some other => if run.2 < other.2 then some other else some run
    | none => some run

/-- The eight groups in their shortest form. -/
def writeGroups (groups : List Nat) : Text :=
  match groups with
  | [0, 0, 0, 0, 0, 0xffff, a, b] => "::ffff:".toList ++ dotted [a / 256, a % 256, b / 256, b % 256]
  | _ =>
    match longest (zeroRuns 0 groups) with
    | some (start, length) =>
      if 1 < length then colons (groups.take start) ++ [':', ':'] ++ colons (groups.drop (start + length))
      else colons groups
    | none => colons groups

end Network

/-- The text of a host address. -/
def Ip.render : Ip → Text
  | .v4 numbers => Network.dotted numbers
  | .v6 groups => Network.writeGroups groups

/-- **The text of an endpoint.** -/
def Endpoint.render (endpoint : Endpoint) : Text :=
  let port := ':' :: Numeral.render endpoint.port.number
  match endpoint.ip with
  | .v4 _ => endpoint.ip.render ++ port
  | .v6 _ =>
    let zone := if endpoint.zone = 0 then [] else '%' :: Numeral.render endpoint.zone
    '[' :: endpoint.ip.render ++ zone ++ (']' :: port)

end PortRelease
