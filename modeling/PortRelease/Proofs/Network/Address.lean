import Mathlib.Data.List.Basic
import Mathlib.Data.List.TakeWhile
import PortRelease.Network.Address
import PortRelease.Proofs.Port.Address
/-!
# Reading addresses

What stands behind an address does not change how the address is read, as long as it cannot go on with it: a colon cannot go
on with an address of version 4, nor a closing bracket with one of version 6 (`readV4_append`, `readV6_append`). So an address
of a host is read as the same address inside an endpoint.

* `Endpoint.read?_v4`, `Endpoint.read?_v6`: an address with a port behind it is the endpoint with that address and port.
* `Endpoint.read?_of_name`: a name with a port behind it is no endpoint.
-/

namespace PortRelease

namespace Network

variable {s more : Text} {stop c : Char} {numbers groups : List Nat}

/-! ## A character that nothing goes on with -/

theorem takeWhile_stop {p : Char → Bool} (stops : p stop = false) (s more : Text) :
    (s ++ stop :: more).takeWhile p = s.takeWhile p := by
  induction s with
  | nil => exact List.takeWhile_cons_of_neg (Bool.eq_false_iff.mp stops)
  | cons c s ih => rw [List.cons_append, List.takeWhile_cons, List.takeWhile_cons, ih]

theorem dropWhile_stop {p : Char → Bool} (stops : p stop = false) (s more : Text) :
    (s ++ stop :: more).dropWhile p = s.dropWhile p ++ stop :: more := by
  induction s with
  | nil => exact List.dropWhile_cons_of_neg (Bool.eq_false_iff.mp stops)
  | cons c s ih =>
    rw [List.cons_append, List.dropWhile_cons, List.dropWhile_cons, ih]
    split <;> rfl

/-- What was read, with a text behind what follows it. -/
def before {α : Type} (behind : Text) (read : α × Text) : α × Text := (read.1, read.2 ++ behind)

theorem expect_self (c : Char) (s : Text) : expect c (c :: s) = some s := by
  rw [expect, if_pos rfl]

theorem expect_append (differs : stop ≠ c) (s more : Text) :
    expect c (s ++ stop :: more) = (expect c s).map (· ++ stop :: more) := by
  cases s with
  | nil => exact if_neg differs
  | cons d s =>
    rw [List.cons_append, expect, expect]
    split <;> rfl

theorem readByte_append (no_digit : isDigitIn 10 stop = false) (s more : Text) :
    readByte (s ++ stop :: more) = (readByte s).map (before (stop :: more)) := by
  unfold readByte
  rw [takeWhile_stop no_digit, dropWhile_stop no_digit]
  dsimp only
  split
  next => rfl
  next => split <;> rfl

theorem readGroup_append (no_digit : isDigitIn 16 stop = false) (s more : Text) :
    readGroup (s ++ stop :: more) = (readGroup s).map (before (stop :: more)) := by
  unfold readGroup
  rw [takeWhile_stop no_digit, dropWhile_stop no_digit]
  dsimp only
  split <;> rfl

theorem readV4_append (no_digit : isDigitIn 10 stop = false) (no_point : stop ≠ '.') (s more : Text) :
    readV4 (s ++ stop :: more) = (readV4 s).map (before (stop :: more)) := by
  simp only [readV4, Option.bind_eq_bind, readByte_append no_digit, expect_append no_point, Option.bind_map,
    Option.map_bind, Function.comp_def, before, Option.pure_def, Option.map_some]

theorem isDigitIn_of_decimal (h : isDigitIn 10 c = true) : isDigitIn 16 c = true := by
  unfold isDigitIn at h ⊢
  cases value : digitValue? c with
  | none =>
    rw [value] at h
    cases h
  | some d =>
    rw [value] at h
    have small : d < 10 := of_decide_eq_true h
    exact decide_eq_true (Nat.lt_trans small (by decide))

theorem readGroups_append (no_digit : isDigitIn 16 stop = false) (no_point : stop ≠ '.') (no_colon : stop ≠ ':')
    (room : Nat) : ∀ (first : Bool) (s more : Text),
    readGroups room first (s ++ stop :: more) =
      ((readGroups room first s).1, before (stop :: more) (readGroups room first s).2) := by
  have no_decimal : isDigitIn 10 stop = false :=
    Bool.eq_false_iff.mpr fun h => Bool.eq_false_iff.mp no_digit (isDigitIn_of_decimal h)
  induction room with
  | zero => exact fun _ _ _ => rfl
  | succ room ih =>
    intro first s more
    have begins : (if first then some (s ++ stop :: more) else expect ':' (s ++ stop :: more)) =
        (if first then some s else expect ':' s).map (· ++ stop :: more) := by
      cases first with
      | true => rfl
      | false => exact expect_append no_colon s more
    simp only [readGroups, begins]
    cases (if first then some s else expect ':' s) with
    | none => cases room <;> rfl
    | some t =>
      have dotted : (if room = 0 then none else (readV4 t).map (before (stop :: more))) =
          (if room = 0 then none else readV4 t).map (before (stop :: more)) := by
        split <;> rfl
      simp only [Option.map_some, Option.bind_some, readV4_append no_decimal no_point, readGroup_append no_digit, dotted]
      cases (if room = 0 then none else readV4 t) with
      | some read => rfl
      | none =>
        cases readGroup t with
        | none => rfl
        | some read => simp only [Option.map_none, Option.map_some, before, ih]

theorem readV6_append (no_digit : isDigitIn 16 stop = false) (no_point : stop ≠ '.') (no_colon : stop ≠ ':')
    (s more : Text) : readV6 (s ++ stop :: more) = (readV6 s).map (before (stop :: more)) := by
  simp only [readV6, readGroups_append no_digit no_point no_colon, Option.bind_eq_bind, expect_append no_colon,
    Option.bind_map, Function.comp_def, before]
  split
  next => rfl
  next =>
    split
    next => rfl
    next => simp only [Option.map_bind, Function.comp_def, Option.pure_def, Option.map_some, before]

/-! ## What is left -/

/-- Reading takes from the front. -/
theorem suffix_of_expect {left : Text} (read : expect c s = some left) : left <:+ s := by
  cases s with
  | nil => cases read
  | cons d s =>
    rw [expect] at read
    split at read
    · obtain rfl := Option.some.inj read
      exact List.suffix_cons d s
    · cases read

theorem suffix_of_readByte {read : Nat × Text} (h : readByte s = some read) : read.2 <:+ s := by
  unfold readByte at h
  dsimp only at h
  split at h
  · cases h
  · split at h
    · obtain rfl := Option.some.inj h
      exact List.dropWhile_suffix _
    · cases h

theorem suffix_of_readGroup {read : Nat × Text} (h : readGroup s = some read) : read.2 <:+ s := by
  unfold readGroup at h
  dsimp only at h
  split at h
  · cases h
  · obtain rfl := Option.some.inj h
    exact List.dropWhile_suffix _

theorem suffix_of_readV4 {read : List Nat × Text} (h : readV4 s = some read) : read.2 <:+ s := by
  simp only [readV4, Option.bind_eq_bind, Option.bind_eq_some_iff, Option.pure_def, Option.some.injEq] at h
  obtain ⟨a, read_a, after_a, point, b, read_b, after_b, point', c, read_c, after_c, point'', d, read_d, rfl⟩ := h
  exact (suffix_of_readByte read_d).trans <| (suffix_of_expect point'').trans <| (suffix_of_readByte read_c).trans <|
    (suffix_of_expect point').trans <| (suffix_of_readByte read_b).trans <| (suffix_of_expect point).trans <|
    suffix_of_readByte read_a

/-! ## Texts without a colon -/

theorem expect_of_not_mem (absent : c ∉ s) : expect c s = none := by
  cases s with
  | nil => rfl
  | cons d s => exact if_neg (List.ne_of_not_mem_cons absent).symm

theorem readGroups_of_no_colon (no_colon : ':' ∉ s) (room : Nat) : readGroups room false s = ([], false, s) := by
  cases room with
  | zero => rfl
  | succ room =>
    simp only [readGroups, Bool.false_eq_true, if_false, expect_of_not_mem no_colon, Option.bind_none, ite_self]

theorem length_groupsOfV4_le (numbers : List Nat) : (groupsOfV4 numbers).length ≤ 2 := by
  unfold groupsOfV4
  split
  next => exact Nat.le_refl 2
  next => exact Nat.zero_le 2

/-- Without a colon there is one group at most, or the two that an address of version 4 makes. -/
theorem readGroups_first_of_no_colon (no_colon : ':' ∉ s) (room : Nat) :
    (readGroups room true s).1.length ≤ 2 ∧ ':' ∉ (readGroups room true s).2.2 := by
  cases room with
  | zero => exact ⟨Nat.zero_le 2, no_colon⟩
  | succ room =>
    simp only [readGroups, if_true, Option.bind_some]
    cases dotted : (if room = 0 then none else readV4 s) with
    | some read =>
      have read_v4 : readV4 s = some read := (Option.ite_none_left_eq_some.mp dotted).2
      exact ⟨length_groupsOfV4_le _, fun mem => no_colon ((suffix_of_readV4 read_v4).mem mem)⟩
    | none =>
      cases hex : readGroup s with
      | none => exact ⟨Nat.zero_le 2, no_colon⟩
      | some read =>
        have no_colon : ':' ∉ read.2 := fun mem => no_colon ((suffix_of_readGroup hex).mem mem)
        simp only [readGroups_of_no_colon no_colon]
        exact ⟨Nat.le_succ 1, no_colon⟩

/-- **An address of version 6 has a colon.** -/
theorem readV6_of_no_colon (no_colon : ':' ∉ s) : readV6 s = none := by
  obtain ⟨few, no_colon⟩ := readGroups_first_of_no_colon no_colon 8
  unfold readV6
  simp only [expect_of_not_mem no_colon]
  split
  next eight => omega
  next => split <;> rfl

/-! ## Ports -/

theorem digitValue?_of_isDigit (digit : c.isDigit = true) : digitValue? c = some (c.toNat - 48) := by
  obtain ⟨low, high⟩ := Char.isDigit_iff_toNat.mp digit
  exact if_pos ⟨Char.le_def.mpr low, high⟩

theorem isDigitIn_of_isDigit (digit : c.isDigit = true) : isDigitIn 10 c = true := by
  have high := (Char.isDigit_iff_toNat.mp digit).2
  rw [isDigitIn, digitValue?_of_isDigit digit]
  exact decide_eq_true (Nat.sub_lt_left_of_lt_add (Char.isDigit_iff_toNat.mp digit).1 (Nat.lt_succ_of_le high))

/-- A number that is written is read with its value. -/
theorem valueIn_render (n : Nat) : valueIn 10 (Numeral.render n) = n := by
  have same_step : ∀ value, ∀ c ∈ Numeral.render n,
      value * 10 + (digitValue? c).getD 0 = 10 * value + (c.toNat - '0'.toNat) := by
    intro value c mem
    rw [digitValue?_of_isDigit (Numeral.isDigit_of_mem_render mem), Nat.mul_comm]
    rfl
  calc
    valueIn 10 (Numeral.render n) = Nat.ofDigitChars 10 (Numeral.render n) 0 := List.foldl_ext _ _ 0 same_step
    _ = n := Nat.ofDigitChars_toDigits (by decide) (by decide)

theorem readNumber_render {limit n : Nat} (h : n < limit) : readNumber limit (Numeral.render n) = some (n, []) := by
  have digits : ∀ c ∈ Numeral.render n, isDigitIn 10 c = true := fun c mem =>
    isDigitIn_of_isDigit (Numeral.isDigit_of_mem_render mem)
  have nonempty : Numeral.render n ≠ [] := Nat.toDigits_ne_nil
  have small : ¬(Numeral.render n = [] ∨ limit ≤ n) := not_or.mpr ⟨nonempty, Nat.not_le.mpr h⟩
  simp only [readNumber, List.takeWhile_eq_self_iff.mpr digits, List.dropWhile_eq_nil_iff.mpr digits, valueIn_render]
  exact if_neg small

theorem whole_eq_some_iff {α : Type} {read : Option (α × Text)} {a : α} : whole read = some a ↔ read = some (a, []) := by
  unfold whole
  split
  next b => simp
  next no_whole =>
    refine ⟨fun h => absurd h (Option.some_ne_none a).symm, ?_⟩
    rintro rfl
    exact absurd rfl (no_whole a)

end Network

open Network

variable {s : Text} {numbers groups : List Nat}

/-! ## Addresses of hosts -/

theorem Ip.readV4_of_read? (literal : read? s = some (.v4 numbers)) : readV4 s = some (numbers, []) := by
  unfold read? at literal
  split at literal
  next whole_v4 =>
    obtain rfl := Ip.v4.inj (Option.some.inj literal)
    exact whole_eq_some_iff.mp whole_v4
  next =>
    obtain ⟨_, -, other⟩ := Option.map_eq_some_iff.mp literal
    cases other

theorem Ip.read?_of_readV4 (address : readV4 s = some (numbers, [])) : read? s = some (.v4 numbers) := by
  rw [read?, whole_eq_some_iff.mpr address]

theorem Ip.readV6_of_read? (literal : read? s = some (.v6 groups)) : readV6 s = some (groups, []) := by
  unfold read? at literal
  split at literal
  next => cases literal
  next =>
    obtain ⟨_, whole_v6, same⟩ := Option.map_eq_some_iff.mp literal
    obtain rfl := Ip.v6.inj same
    exact whole_eq_some_iff.mp whole_v6

namespace Endpoint

/-! ## Endpoints -/

theorem readPort?_written (port : Port) : readPort? (':' :: Numeral.render port.number) = some port := by
  have number : whole (readNumber 65536 (Numeral.render port.number)) = some port.number :=
    whole_eq_some_iff.mpr (readNumber_render port.number_lt)
  simp only [readPort?, expect_self, Option.bind_eq_bind, Option.bind_some, number, Port.ofNat?_number]

/-- **An address of version 4 with a port behind it.** -/
theorem read?_v4 (literal : Ip.read? s = some (.v4 numbers)) (port : Port) :
    read? (s ++ ':' :: Numeral.render port.number) = some (.of (.v4 numbers) port) := by
  have address : readV4 (s ++ ':' :: Numeral.render port.number) = some (numbers, ':' :: Numeral.render port.number) := by
    rw [readV4_append (by decide) (by decide), Ip.readV4_of_read? literal]
    rfl
  have endpoint : readV4? (s ++ ':' :: Numeral.render port.number) = some (.of (.v4 numbers) port) := by
    simp only [readV4?, address, Option.bind_eq_bind, Option.bind_some, readPort?_written]
    rfl
  rw [read?, endpoint]
  rfl

theorem readV4?_of_bracket (s : Text) : readV4? ('[' :: s) = none := by
  have no_byte : readByte ('[' :: s) = none := by
    rw [readByte, List.takeWhile_cons_of_neg (by decide)]
    rfl
  simp only [readV4?, readV4, no_byte, Option.bind_eq_bind, Option.bind_none]

/-- **An address of version 6 in brackets with a port behind it.** -/
theorem read?_v6 (literal : Ip.read? s = some (.v6 groups)) (port : Port) :
    read? ('[' :: s ++ ']' :: ':' :: Numeral.render port.number) = some (.of (.v6 groups) port) := by
  let behind := ':' :: Numeral.render port.number
  have address : readV6 (s ++ ']' :: behind) = some (groups, ']' :: behind) := by
    rw [readV6_append (by decide) (by decide) (by decide), Ip.readV6_of_read? literal]
    rfl
  have no_zone : readZone (']' :: behind) = (0, ']' :: behind) := rfl
  have endpoint : readV6? ('[' :: s ++ ']' :: behind) = some (.of (.v6 groups) port) := by
    simp only [readV6?, List.cons_append, expect_self, address, no_zone, Option.bind_eq_bind, Option.bind_some, behind,
      readPort?_written]
    rfl
  rw [read?, List.cons_append, readV4?_of_bracket]
  exact endpoint

/-- **A name with a port behind it is no endpoint.** -/
theorem read?_of_name (name : Ip.read? s = none) (no_colon : ':' ∉ s) (no_bracket : '[' ∉ s) (behind : Text) :
    read? (s ++ ':' :: behind) = none := by
  have no_v6 : readV6? (s ++ ':' :: behind) = none := by
    have unopened : expect '[' (s ++ ':' :: behind) = none := by
      rw [expect_append (by decide), expect_of_not_mem no_bracket]
      rfl
    simp only [readV6?, unopened, Option.bind_eq_bind, Option.bind_none]
  have no_v4 : readV4? (s ++ ':' :: behind) = none := by
    have apart := readV4_append (show isDigitIn 10 ':' = false by decide) (show ':' ≠ '.' by decide) s behind
    simp only [readV4?, apart, Option.bind_eq_bind]
    cases address : readV4 s with
    | none => rfl
    | some read =>
      obtain ⟨numbers, left⟩ := read
      have uncolonned : expect ':' (left ++ ':' :: behind) = none := by
        cases left with
        | nil =>
          rw [Ip.read?_of_readV4 address] at name
          cases name
        | cons c left =>
          have mem : c ∈ s := (suffix_of_readV4 address).mem List.mem_cons_self
          exact if_neg fun is_colon : c = ':' => no_colon (is_colon ▸ mem)
      simp only [Option.map_some, Option.bind_some, before, readPort?, uncolonned, Option.bind_eq_bind, Option.bind_none]
  rw [read?, no_v4, no_v6]
  rfl

end Endpoint

end PortRelease
