import PortRelease.Text.Numeral
/-!
# Every spelling of a number

A number has one plain numeral, which is what is written for it, and is read from that with any zeros in front and one
plus sign at most in front of those. Nothing else is read as the number (`readNat?_eq_some_iff`).

The converse rests on one observation: behind a positive number further digits make a longer plain numeral
(`render_append`), so whatever follows the leading zeros of a text of digits is plain.
-/

namespace PortRelease.Numeral

variable {c : Char} {s digits : Text} {n : Nat}

/-- **How a number is spelled**: its plain numeral behind any zeros, and a plus sign in front of all or none. -/
inductive Spelled (n : Nat) : Text → Prop
  | unsigned (zeros : Nat) : Spelled n (List.replicate zeros '0' ++ render n)
  | signed (zeros : Nat) : Spelled n ('+' :: (List.replicate zeros '0' ++ render n))

theorem isDigit_of_mem_render (mem : c ∈ render n) : c.isDigit = true :=
  Nat.isDigit_of_mem_toDigits (by decide) (by decide) mem

theorem isDigit_of_mem_padded {zeros : Nat} (mem : c ∈ List.replicate zeros '0' ++ render n) : c.isDigit = true := by
  rcases List.mem_append.mp mem with zero | digit
  · rw [List.eq_of_mem_replicate zero]
    rfl
  · exact isDigit_of_mem_render digit

/-- Behind its sign a number is spelled with digits only, so without any mark. -/
theorem not_mem_padded (no_digit : c.isDigit = false) (zeros n : Nat) : c ∉ List.replicate zeros '0' ++ render n := by
  intro mem
  rw [isDigit_of_mem_padded mem] at no_digit
  cases no_digit

theorem not_mem_render (no_digit : c.isDigit = false) (n : Nat) : c ∉ render n := not_mem_padded no_digit 0 n

theorem Spelled.not_mem (spelled : Spelled n s) (no_digit : c.isDigit = false) (no_plus : c ≠ '+') : c ∉ s := by
  cases spelled with
  | unsigned zeros => exact not_mem_padded no_digit zeros n
  | signed zeros => exact List.not_mem_cons_of_ne_of_not_mem no_plus (not_mem_padded no_digit zeros n)

theorem Spelled.ne_nil (spelled : Spelled n s) : s ≠ [] := by
  cases spelled with
  | unsigned zeros => exact List.append_ne_nil_of_right_ne_nil _ Nat.toDigits_ne_nil
  | signed zeros => exact List.cons_ne_nil _ _

/-! ## Digits -/

theorem value_lt (digit : c.isDigit = true) : c.toNat - '0'.toNat < 10 := by
  have high := (Char.isDigit_iff_toNat.mp digit).2
  have nine : '9'.toNat = '0'.toNat + 9 := rfl
  omega

/-- A digit is the plain numeral of its value. -/
theorem render_value (digit : c.isDigit = true) : render (c.toNat - '0'.toNat) = [c] := by
  have same : (c.toNat - '0'.toNat).digitChar = c := by
    apply Char.toNat_inj.mp
    calc
      (c.toNat - '0'.toNat).digitChar.toNat = '0'.toNat + (c.toNat - '0'.toNat) :=
        Nat.toNat_digitChar_of_lt_ten (value_lt digit)
      _ = c.toNat := Nat.add_sub_cancel' (Char.isDigit_iff_toNat.mp digit).1
  rw [render, Nat.toDigits_of_lt_base (value_lt digit), same]

/-- **Digits behind a positive number** are read with it as one number, whose plain numeral they complete. -/
theorem render_append (all : ∀ c ∈ digits, c.isDigit = true) (positive : 0 < n) :
    render n ++ digits = render (Nat.ofDigitChars 10 digits n) := by
  induction digits generalizing n with
  | nil => rw [List.append_nil, Nat.ofDigitChars_nil]
  | cons c digits ih =>
    obtain ⟨digit, others⟩ := List.forall_mem_cons.mp all
    have one_more : render n ++ render (c.toNat - '0'.toNat) = render (10 * n + (c.toNat - '0'.toNat)) :=
      Nat.toDigits_append_toDigits (by decide) positive (value_lt digit)
    calc
      render n ++ c :: digits = render n ++ [c] ++ digits := by rw [List.append_assoc, List.singleton_append]
      _ = render (10 * n + (c.toNat - '0'.toNat)) ++ digits := by rw [← render_value digit, one_more]
      _ = render (Nat.ofDigitChars 10 (c :: digits) n) := by rw [ih others (by omega), Nat.ofDigitChars_cons]

/-- Digits are some zeros and then the plain numeral of their value. -/
theorem exists_eq_padded (all : ∀ c ∈ digits, c.isDigit = true) (nonempty : digits ≠ []) :
    ∃ zeros, digits = List.replicate zeros '0' ++ render (Nat.ofDigitChars 10 digits 0) := by
  induction digits with
  | nil => exact absurd rfl nonempty
  | cons c digits ih =>
    obtain ⟨digit, others⟩ := List.forall_mem_cons.mp all
    by_cases zero : c = '0'
    · subst zero
      by_cases last : digits = []
      · -- the last zero is not padding, it is the number
        subst last
        exact ⟨0, rfl⟩
      · obtain ⟨zeros, padded⟩ := ih others last
        exact ⟨zeros + 1, congrArg ('0' :: ·) padded⟩
    · have positive : 0 < c.toNat - '0'.toNat := by
        have low := (Char.isDigit_iff_toNat.mp digit).1
        have differs : c.toNat ≠ '0'.toNat := fun same => zero (Char.toNat_inj.mp same)
        omega
      refine ⟨0, ?_⟩
      rw [Nat.ofDigitChars_cons, Nat.mul_zero, Nat.zero_add, ← render_append others positive, render_value digit]
      rfl

theorem ofDigits?_eq_some_iff : ofDigits? s = some n ↔ ∃ zeros, s = List.replicate zeros '0' ++ render n := by
  rw [ofDigits?, Option.ite_none_right_eq_some]
  constructor
  · rintro ⟨⟨nonempty, all⟩, value⟩
    obtain rfl := Option.some.inj value
    exact exists_eq_padded (List.all_eq_true.mp all) nonempty
  · rintro ⟨zeros, rfl⟩
    refine ⟨⟨(Spelled.unsigned zeros).ne_nil, List.all_eq_true.mpr fun _ => isDigit_of_mem_padded⟩, ?_⟩
    rw [Nat.ofDigitChars_append, Nat.ofDigitChars_replicate_zero, Nat.mul_zero, render,
      Nat.ofDigitChars_toDigits (by decide) (by decide)]

/-! ## Signs -/

theorem readNat?_of_unsigned (unsigned : '+' ∉ s) : readNat? s = ofDigits? s := by
  unfold readNat?
  split
  next => exact absurd List.mem_cons_self unsigned
  next => rfl

/-- **A text is read as a number just if it spells it.** -/
theorem readNat?_eq_some_iff : readNat? s = some n ↔ Spelled n s := by
  constructor
  · intro reads
    unfold readNat? at reads
    split at reads
    next =>
      obtain ⟨zeros, rfl⟩ := ofDigits?_eq_some_iff.mp reads
      exact .signed zeros
    next =>
      obtain ⟨zeros, rfl⟩ := ofDigits?_eq_some_iff.mp reads
      exact .unsigned zeros
  · intro spelled
    cases spelled with
    | unsigned zeros =>
      rw [readNat?_of_unsigned (not_mem_padded (by decide) zeros n)]
      exact ofDigits?_eq_some_iff.mpr ⟨zeros, rfl⟩
    | signed zeros => exact ofDigits?_eq_some_iff.mpr ⟨zeros, rfl⟩

theorem readBelow?_eq_some_iff {limit : Nat} : readBelow? limit s = some n ↔ Spelled n s ∧ n < limit := by
  rw [readBelow?, Option.filter_eq_some_iff, readNat?_eq_some_iff, decide_eq_true_iff]

end PortRelease.Numeral
