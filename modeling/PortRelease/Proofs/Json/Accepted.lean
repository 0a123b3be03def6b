import PortRelease.Proofs.Json.Fields
/-!
# Nothing but JSON is read

The converse of what is said of spelled phrases: where a reader gives something, it has read a text that spells it, and
the rest is what follows that text. So the texts that are read as a value are exactly the documents that spell it
(`read?_eq_some_iff`).
-/

namespace PortRelease.Json

variable {s rest : Text}

/-! ## Space and strings -/

/-- What is skipped is space. -/
theorem exists_skipSpace (s : Text) : ∃ before, Space before ∧ s = before ++ skipSpace s := by
  refine ⟨s.takeWhile isSpace, fun c mem => ?_, List.takeWhile_append_dropWhile.symm⟩
  exact List.all_eq_true.mp List.all_takeWhile c mem

theorem exists_of_skipSpace_eq {t : Text} (skipped : skipSpace s = t) :
    ∃ before, Space before ∧ s = before ++ t := by
  rw [← skipped]
  exact exists_skipSpace s

theorem spelled_of_readParts {parts : List StringPart} (read : readParts s = some (parts, rest)) :
    ∃ spelled, PartsSpelled parts spelled ∧ s = spelled ++ '"' :: rest := by
  fun_induction readParts s generalizing parts rest with
  | case1 => cases read
  | case2 rest' =>
    cases read
    exact ⟨[], .nil, rfl⟩
  | case3 a b c d more ih =>
    obtain ⟨n, code, read⟩ := Option.bind_eq_some_iff.mp read
    obtain ⟨⟨others, behind⟩, read, made⟩ := Option.bind_eq_some_iff.mp read
    cases made
    obtain ⟨spelled, is_spelled, rfl⟩ := ih read
    exact ⟨_, .cons (.code code) is_spelled, rfl⟩
  | case4 e more no_code ih =>
    obtain ⟨c, short, read⟩ := Option.bind_eq_some_iff.mp read
    obtain ⟨⟨others, behind⟩, read, made⟩ := Option.bind_eq_some_iff.mp read
    cases made
    obtain ⟨spelled, is_spelled, rfl⟩ := ih read
    exact ⟨_, .cons (.short short) is_spelled, rfl⟩
  | case5 => cases read
  | case6 c more no_quote _ no_short printable ih =>
    obtain ⟨⟨others, behind⟩, read, made⟩ := Option.bind_eq_some_iff.mp read
    cases made
    have no_backslash : c ≠ '\\' := by
      rintro rfl
      cases more with
      | nil => cases read
      | cons e more => exact no_short e more rfl rfl
    obtain ⟨spelled, is_spelled, rfl⟩ := ih read
    exact ⟨_, .cons (.plain (Nat.not_lt.mp printable) no_quote no_backslash) is_spelled, rfl⟩

theorem spelled_of_readString {literal : Literal} (read : readString s = some (literal, rest)) :
    ∃ parts spelled, PartsSpelled parts spelled ∧ denoted parts = literal ∧ s = spelled ++ '"' :: rest := by
  obtain ⟨⟨parts, behind⟩, read, made⟩ := Option.bind_eq_some_iff.mp read
  cases made
  obtain ⟨spelled, is_spelled, rfl⟩ := spelled_of_readParts read
  exact ⟨parts, spelled, is_spelled, rfl, rfl⟩

/-! ## Numbers -/

theorem digits_of_readDigits {digits : Text} (read : readDigits s = some (digits, rest)) :
    Digits digits ∧ s = digits ++ rest := by
  unfold readDigits at read
  split at read
  next => cases read
  next digits' some_digit =>
    obtain ⟨rfl, rfl⟩ := Prod.mk.inj (Option.some.inj read)
    refine ⟨⟨some_digit, fun c mem => ?_⟩, List.takeWhile_append_dropWhile.symm⟩
    exact List.all_eq_true.mp List.all_takeWhile c mem

theorem whole_of_readWhole {whole : Text} (read : readWhole s = some (whole, rest)) :
    (whole = ['0'] ∨ Digits whole ∧ whole.head? ≠ some '0') ∧ s = whole ++ rest := by
  unfold readWhole at read
  split at read
  next =>
    cases read
    exact ⟨.inl rfl, rfl⟩
  next no_zero =>
    obtain ⟨digits, rfl⟩ := digits_of_readDigits read
    refine ⟨.inr ⟨digits, fun zero => ?_⟩, rfl⟩
    obtain ⟨more, rfl⟩ := List.head?_eq_some_iff.mp zero
    exact no_zero _ rfl

theorem spelled_of_readFraction {fraction : Option Text} (read : readFraction s = some (fraction, rest)) :
    ∃ spelled, FractionSpelled fraction spelled ∧ s = spelled ++ rest := by
  unfold readFraction at read
  split at read
  next =>
    obtain ⟨⟨digits, behind⟩, read, made⟩ := Option.bind_eq_some_iff.mp read
    cases made
    obtain ⟨is_number, rfl⟩ := digits_of_readDigits read
    exact ⟨_, .some is_number, rfl⟩
  next =>
    cases read
    exact ⟨[], .none, rfl⟩

theorem spelled_of_readSign {negative : Bool} (read : readSign s = (negative, rest)) :
    ∃ sign, SignSpelled negative sign ∧ s = sign ++ rest := by
  unfold readSign at read
  split at read
  next =>
    cases read
    exact ⟨['-'], .minus, rfl⟩
  next =>
    cases read
    exact ⟨['+'], .plus, rfl⟩
  next =>
    cases read
    exact ⟨[], .none, rfl⟩

theorem spelled_of_readExponent {exponent : Option (Bool × Text)} (read : readExponent s = some (exponent, rest)) :
    ∃ spelled, ExponentSpelled exponent spelled ∧ s = spelled ++ rest := by
  unfold readExponent at read
  split at read
  next c more =>
    split at read
    next is_mark =>
      cases sign_read : readSign more with
      | mk negative unsigned =>
        rw [sign_read] at read
        obtain ⟨⟨digits, behind⟩, read, made⟩ := Option.bind_eq_some_iff.mp read
        cases made
        obtain ⟨is_number, rfl⟩ := digits_of_readDigits read
        obtain ⟨sign, signed, rfl⟩ := spelled_of_readSign sign_read
        exact ⟨_, .some is_mark signed is_number, by simp⟩
    next =>
      cases read
      exact ⟨[], .none, rfl⟩
  next =>
    cases read
    exact ⟨[], .none, rfl⟩

/-- The digits of a number and what stands behind them, without a sign in front. -/
theorem spelled_of_digits {whole behind behind' : Text} {fraction : Option Text} {exponent : Option (Bool × Text)}
    (read_whole : readWhole s = some (whole, behind)) (read_fraction : readFraction behind = some (fraction, behind'))
    (read_exponent : readExponent behind' = some (exponent, rest)) (negative : Bool) :
    ∃ spelled, NumberSpelled ⟨negative, whole, fraction, exponent⟩ ((if negative then ['-'] else []) ++ spelled) ∧
      s = spelled ++ rest := by
  obtain ⟨is_whole, rfl⟩ := whole_of_readWhole read_whole
  obtain ⟨fractional, is_fraction, rfl⟩ := spelled_of_readFraction read_fraction
  obtain ⟨scaled, is_exponent, rfl⟩ := spelled_of_readExponent read_exponent
  exact ⟨whole ++ (fractional ++ scaled), .intro is_whole is_fraction is_exponent, by simp⟩

theorem spelled_of_readNumber {n : Number} (read : readNumber s = some (n, rest)) :
    ∃ spelled, NumberSpelled n spelled ∧ s = spelled ++ rest := by
  unfold readNumber at read
  split at read
  next negative unsigned sign =>
    obtain ⟨⟨whole, behind⟩, read_whole, read⟩ := Option.bind_eq_some_iff.mp read
    obtain ⟨⟨fraction, behind'⟩, read_fraction, read⟩ := Option.bind_eq_some_iff.mp read
    obtain ⟨⟨exponent, behind''⟩, read_exponent, made⟩ := Option.bind_eq_some_iff.mp read
    cases made
    obtain ⟨spelled, is_spelled, rfl⟩ := spelled_of_digits read_whole read_fraction read_exponent negative
    refine ⟨_, is_spelled, ?_⟩
    split at sign
    next =>
      cases sign
      rfl
    next =>
      cases sign
      rfl

/-! ## Values -/

/-- What the three readers have read, within some bound, when they give something. -/
structure Sound (bound : Nat) : Prop where
  value {s rest : Text} {j : Json} (read : readValue bound s = some (j, rest)) :
    ∃ before spelled, Space before ∧ Spelled (.value j) spelled ∧ s = before ++ (spelled ++ rest)
  items {s rest : Text} {items : List Json} (read : readItems bound s = some (items, rest)) :
    ∃ spelled, Spelled (.items items) spelled ∧ s = spelled ++ ']' :: rest
  members {s rest : Text} {members : List (Literal × Json)} (read : readMembers bound s = some (members, rest)) :
    ∃ spelled, Spelled (.members members) spelled ∧ s = spelled ++ '}' :: rest

variable {bound : Nat} {j : Json} {items : List Json} {members : List (Literal × Json)}

theorem Sound.value_succ (sound : Sound bound) (read : readValue (bound + 1) s = some (j, rest)) :
    ∃ before spelled, Space before ∧ Spelled (.value j) spelled ∧ s = before ++ (spelled ++ rest) := by
  unfold readValue at read
  split at read
  next more opens =>
    obtain ⟨before, leading, rfl⟩ := exists_of_skipSpace_eq opens
    split at read
    next more' closes =>
      cases read
      obtain ⟨gap, space, rfl⟩ := exists_of_skipSpace_eq closes
      exact ⟨before, _, leading, .emptyObject space, by simp⟩
    next more' starts =>
      obtain ⟨⟨members, behind⟩, read, made⟩ := Option.map_eq_some_iff.mp read
      cases made
      rw [readMembers_skipSpace] at read
      obtain ⟨spelled, is_spelled, rfl⟩ := sound.members read
      exact ⟨before, _, leading, .object is_spelled, by simp⟩
  next more opens =>
    obtain ⟨before, leading, rfl⟩ := exists_of_skipSpace_eq opens
    split at read
    next more' closes =>
      cases read
      obtain ⟨gap, space, rfl⟩ := exists_of_skipSpace_eq closes
      exact ⟨before, _, leading, .emptyArray space, by simp⟩
    next more' starts =>
      obtain ⟨⟨items, behind⟩, read, made⟩ := Option.map_eq_some_iff.mp read
      cases made
      rw [readItems_skipSpace] at read
      obtain ⟨spelled, is_spelled, rfl⟩ := sound.items read
      exact ⟨before, _, leading, .array is_spelled, by simp⟩
  next more opens =>
    obtain ⟨before, leading, rfl⟩ := exists_of_skipSpace_eq opens
    obtain ⟨⟨literal, behind⟩, read, made⟩ := Option.map_eq_some_iff.mp read
    cases made
    obtain ⟨parts, spelled, is_spelled, rfl, rfl⟩ := spelled_of_readString read
    exact ⟨before, _, leading, .string is_spelled, by simp⟩
  next more starts =>
    obtain ⟨before, leading, rfl⟩ := exists_of_skipSpace_eq starts
    cases read
    exact ⟨before, _, leading, .true, rfl⟩
  next more starts =>
    obtain ⟨before, leading, rfl⟩ := exists_of_skipSpace_eq starts
    cases read
    exact ⟨before, _, leading, .false, rfl⟩
  next more starts =>
    obtain ⟨before, leading, rfl⟩ := exists_of_skipSpace_eq starts
    cases read
    exact ⟨before, _, leading, .null, rfl⟩
  next =>
    -- what is none of these can only be a number
    obtain ⟨before, leading, whole⟩ := exists_skipSpace s
    obtain ⟨⟨n, behind⟩, read, made⟩ := Option.map_eq_some_iff.mp read
    cases made
    obtain ⟨spelled, is_spelled, left⟩ := spelled_of_readNumber read
    rw [left] at whole
    exact ⟨before, spelled, leading, .number is_spelled, whole⟩

theorem Sound.items_succ (sound : Sound bound) (read : readItems (bound + 1) s = some (items, rest)) :
    ∃ spelled, Spelled (.items items) spelled ∧ s = spelled ++ ']' :: rest := by
  obtain ⟨⟨item, behind⟩, read_item, goes_on⟩ := Option.bind_eq_some_iff.mp read
  obtain ⟨before, spelled, leading, is_spelled, rfl⟩ := sound.value read_item
  dsimp only at goes_on
  split at goes_on
  next more next_starts =>
    obtain ⟨⟨others, last⟩, read_others, made⟩ := Option.bind_eq_some_iff.mp goes_on
    cases made
    obtain ⟨after, trailing, rfl⟩ := exists_of_skipSpace_eq next_starts
    obtain ⟨spelled_others, others_spelled, rfl⟩ := sound.items read_others
    exact ⟨_, .item leading is_spelled trailing others_spelled, by simp⟩
  next more ends =>
    cases goes_on
    obtain ⟨after, trailing, rfl⟩ := exists_of_skipSpace_eq ends
    exact ⟨_, .lastItem leading is_spelled trailing, by simp⟩
  next => cases goes_on

theorem Sound.members_succ (sound : Sound bound) (read : readMembers (bound + 1) s = some (members, rest)) :
    ∃ spelled, Spelled (.members members) spelled ∧ s = spelled ++ '}' :: rest := by
  unfold readMembers at read
  split at read
  next more opens =>
    obtain ⟨before, leading, rfl⟩ := exists_of_skipSpace_eq opens
    obtain ⟨⟨name, behind⟩, read_name, goes_on⟩ := Option.bind_eq_some_iff.mp read
    obtain ⟨parts, named, is_named, rfl, rfl⟩ := spelled_of_readString read_name
    dsimp only at goes_on
    split at goes_on
    next unread colon =>
      obtain ⟨gap, space, rfl⟩ := exists_of_skipSpace_eq colon
      obtain ⟨⟨value, behind⟩, read_value, more_or_end⟩ := Option.bind_eq_some_iff.mp goes_on
      obtain ⟨between, spelled, space', is_spelled, rfl⟩ := sound.value read_value
      dsimp only at more_or_end
      split at more_or_end
      next more next_starts =>
        obtain ⟨⟨others, last⟩, read_others, made⟩ := Option.bind_eq_some_iff.mp more_or_end
        cases made
        obtain ⟨after, trailing, rfl⟩ := exists_of_skipSpace_eq next_starts
        obtain ⟨spelled_others, others_spelled, rfl⟩ := sound.members read_others
        exact ⟨_, .member leading is_named space space' is_spelled trailing others_spelled, by simp⟩
      next more ends =>
        cases more_or_end
        obtain ⟨after, trailing, rfl⟩ := exists_of_skipSpace_eq ends
        exact ⟨_, .lastMember leading is_named space space' is_spelled trailing, by simp⟩
      next => cases more_or_end
    next => cases goes_on
  next => cases read

theorem sound (bound : Nat) : Sound bound := by
  induction bound with
  | zero => exact ⟨nofun, nofun, nofun⟩
  | succ bound ih => exact ⟨ih.value_succ, ih.items_succ, ih.members_succ⟩

/-- **The texts that are read as a value are the documents that spell it.** -/
theorem read?_eq_some_iff {text : Text} : read? text = some j ↔ Document j text := by
  constructor
  · intro read
    unfold read? at read
    split at read
    next value behind read_value =>
      split at read
      next nothing_left =>
        cases read
        obtain ⟨before, spelled, leading, is_spelled, whole⟩ := (sound _).value read_value
        obtain ⟨after, trailing, rest_eq⟩ := exists_of_skipSpace_eq nothing_left
        rw [List.append_nil] at rest_eq
        exact ⟨before, spelled, after, leading, is_spelled, trailing, by rw [whole, rest_eq]⟩
      next => cases read
    next => cases read
  · exact read?_of_document

end PortRelease.Json
