import PortRelease.Json.Reader
/-!
# The grammar of JSON, and that all of it is read

Which texts spell a value: the grammar of RFC 8259 as a relation (`Spelled`). One value has many spellings, by the space
between tokens, the escapes in strings and the way an exponent is written; the relation names them all and says nothing
about how a text is read.

**Every spelling is read as what it spells** (`read?_of_spelled`), with any space around it.
-/

namespace PortRelease.Json

variable {s rest : Text}

/-! ## The grammar -/

/-- Space between tokens. -/
def Space (s : Text) : Prop := ∀ c ∈ s, isSpace c = true

instance (s : Text) : Decidable (Space s) := List.decidableBAll _ s

/-- How a part of a string is spelled. -/
inductive PartSpelled : StringPart → Text → Prop
  | plain {c : Char} (printable : 0x20 ≤ c.toNat) (no_quote : c ≠ '"') (no_backslash : c ≠ '\\') :
    PartSpelled (.char c) [c]
  | short {e c : Char} (spelled : escaped? e = some c) : PartSpelled (.char c) ['\\', e]
  | code {a b c d : Char} {n : Nat} (spelled : hexCode? a b c d = some n) :
    PartSpelled (.code n) ['\\', 'u', a, b, c, d]

/-- How the parts of a string are spelled. -/
inductive PartsSpelled : List StringPart → Text → Prop
  | nil : PartsSpelled [] []
  | cons {part : StringPart} {parts : List StringPart} {s t : Text} (first : PartSpelled part s)
    (more : PartsSpelled parts t) : PartsSpelled (part :: parts) (s ++ t)

/-- One digit or more. -/
def Digits (s : Text) : Prop := s ≠ [] ∧ ∀ c ∈ s, c.isDigit = true

instance (s : Text) : Decidable (Digits s) := inferInstanceAs (Decidable (s ≠ [] ∧ ∀ c ∈ s, c.isDigit = true))

/-- How a fraction is spelled. -/
inductive FractionSpelled : Option Text → Text → Prop
  | none : FractionSpelled none []
  | some {digits : Text} (is_number : Digits digits) : FractionSpelled (some digits) ('.' :: digits)

/-- How the sign of an exponent is spelled; `true` is the minus sign. -/
inductive SignSpelled : Bool → Text → Prop
  | minus : SignSpelled true ['-']
  | plus : SignSpelled false ['+']
  | none : SignSpelled false []

/-- How an exponent is spelled. -/
inductive ExponentSpelled : Option (Bool × Text) → Text → Prop
  | none : ExponentSpelled none []
  | some {mark : Char} {negative : Bool} {sign digits : Text} (is_mark : mark = 'e' ∨ mark = 'E')
    (signed : SignSpelled negative sign) (is_number : Digits digits) :
    ExponentSpelled (some (negative, digits)) (mark :: (sign ++ digits))

/-- How a number is spelled: a zero in front of the point stands alone. -/
inductive NumberSpelled (number : Number) : Text → Prop
  | intro {fraction exponent : Text} (whole : number.whole = ['0'] ∨ Digits number.whole ∧ number.whole.head? ≠ some '0')
    (fractional : FractionSpelled number.fraction fraction) (scaled : ExponentSpelled number.exponent exponent) :
    NumberSpelled number ((if number.negative then ['-'] else []) ++ (number.whole ++ (fraction ++ exponent)))

/-- What a text can spell: a value, or what stands between the brackets of an array or an object that is not empty. -/
inductive Phrase where
  | value (j : Json)
  | items (items : List Json)
  | members (members : List (Literal × Json))

/-- **How values are spelled.** No space stands around a value itself, but any around an item and around the name and the
value of a member. -/
inductive Spelled : Phrase → Text → Prop
  | null : Spelled (.value .null) "null".toList
  | true : Spelled (.value (.bool true)) "true".toList
  | false : Spelled (.value (.bool false)) "false".toList
  | number {n : Number} {s : Text} (spelled : NumberSpelled n s) : Spelled (.value (.number n)) s
  | string {parts : List StringPart} {s : Text} (spelled : PartsSpelled parts s) :
    Spelled (.value (.string (denoted parts))) ('"' :: (s ++ ['"']))
  | emptyArray {s : Text} (space : Space s) : Spelled (.value (.array [])) ('[' :: (s ++ [']']))
  | array {items : List Json} {s : Text} (spelled : Spelled (.items items) s) :
    Spelled (.value (.array items)) ('[' :: (s ++ [']']))
  | emptyObject {s : Text} (space : Space s) : Spelled (.value (.object [])) ('{' :: (s ++ ['}']))
  | object {members : List (Literal × Json)} {s : Text} (spelled : Spelled (.members members) s) :
    Spelled (.value (.object members)) ('{' :: (s ++ ['}']))
  | lastItem {before after s : Text} {item : Json} (leading : Space before) (spelled : Spelled (.value item) s)
    (trailing : Space after) : Spelled (.items [item]) (before ++ (s ++ after))
  | item {before after s more : Text} {item : Json} {items : List Json} (leading : Space before)
    (spelled : Spelled (.value item) s) (trailing : Space after) (others : Spelled (.items items) more) :
    Spelled (.items (item :: items)) (before ++ (s ++ (after ++ ',' :: more)))
  | lastMember {before behind between after name s : Text} {parts : List StringPart} {value : Json}
    (leading : Space before) (named : PartsSpelled parts name) (space : Space behind) (space' : Space between)
    (spelled : Spelled (.value value) s) (trailing : Space after) :
    Spelled (.members [(denoted parts, value)])
      (before ++ '"' :: (name ++ '"' :: (behind ++ ':' :: (between ++ (s ++ after)))))
  | member {before behind between after name s more : Text} {parts : List StringPart} {value : Json}
    {members : List (Literal × Json)} (leading : Space before) (named : PartsSpelled parts name) (space : Space behind)
    (space' : Space between) (spelled : Spelled (.value value) s) (trailing : Space after)
    (others : Spelled (.members members) more) :
    Spelled (.members ((denoted parts, value) :: members))
      (before ++ '"' :: (name ++ '"' :: (behind ++ ':' :: (between ++ (s ++ (after ++ ',' :: more))))))

/-! ## Space and strings -/

theorem skipSpace_append (space : Space s) (rest : Text) : skipSpace (s ++ rest) = skipSpace rest :=
  List.dropWhile_append_of_pos space

theorem skipSpace_cons {c : Char} (token : isSpace c = false) (s : Text) : skipSpace (c :: s) = c :: s := by
  rw [skipSpace, List.dropWhile_cons_of_neg]
  rw [token]
  exact Bool.false_ne_true

theorem readParts_cons {part : StringPart} (spelled : PartSpelled part s) (rest : Text) :
    readParts (s ++ rest) = (readParts rest).map fun (parts, rest) => (part :: parts, rest) := by
  cases spelled with
  | @plain c printable no_quote no_backslash =>
    have shown : ¬ c.toNat < 0x20 := Nat.not_lt.mpr printable
    rw [List.cons_append, List.nil_append, readParts, if_neg shown]
    · cases readParts rest <;> rfl
    · exact no_quote
    · exact fun _ _ _ _ _ eq => absurd eq no_backslash
    · exact fun _ _ eq => absurd eq no_backslash
  | @short e c spelled =>
    have no_code : e ≠ 'u' := by
      rintro rfl
      cases spelled
    rw [List.cons_append, List.cons_append, List.nil_append, readParts, spelled]
    · cases readParts rest <;> rfl
    · exact fun _ _ _ _ _ eq => absurd eq no_code
  | code spelled =>
    simp only [List.cons_append, List.nil_append]
    rw [readParts, spelled]
    cases readParts rest <;> rfl

theorem readParts_of_spelled {parts : List StringPart} (spelled : PartsSpelled parts s) (rest : Text) :
    readParts (s ++ '"' :: rest) = some (parts, rest) := by
  induction spelled with
  | nil => rw [List.nil_append, readParts]
  | cons first _ ih => rw [List.append_assoc, readParts_cons first, ih, Option.map_some]

theorem readString_of_spelled {parts : List StringPart} (spelled : PartsSpelled parts s) (rest : Text) :
    readString (s ++ '"' :: rest) = some (denoted parts, rest) := by
  rw [readString, readParts_of_spelled spelled]
  rfl

/-! ## Numbers -/

/-- No character of a number stands at the start of a text. -/
def EndsNumber (rest : Text) : Prop := ∀ c ∈ rest.head?, c.isDigit = false ∧ c ≠ '.' ∧ c ≠ 'e' ∧ c ≠ 'E'

theorem endsNumber_cons {c : Char} (digit : c.isDigit = false) (point : c ≠ '.') (mark : c ≠ 'e') (mark' : c ≠ 'E')
    (rest : Text) : EndsNumber (c :: rest) := by
  rintro d ⟨⟩
  exact ⟨digit, point, mark, mark'⟩

theorem endsNumber_append (space : Space s) (ends : EndsNumber rest) : EndsNumber (s ++ rest) := by
  cases s with
  | nil => exact ends
  | cons c s =>
    have is_space : isSpace c = true := space c List.mem_cons_self
    simp only [isSpace, Bool.or_eq_true, decide_eq_true_eq] at is_space
    rcases is_space with ((rfl | rfl) | rfl) | rfl <;>
      exact endsNumber_cons (by decide) (by decide) (by decide) (by decide) _

theorem Digits.exists_cons (digits : Digits s) : ∃ c more, s = c :: more ∧ c.isDigit = true := by
  obtain ⟨c, more, rfl⟩ := List.exists_cons_of_ne_nil digits.1
  exact ⟨c, more, rfl, digits.2 c List.mem_cons_self⟩

theorem readDigits_append (digits : Digits s) (ends : ∀ c ∈ rest.head?, c.isDigit = false) :
    readDigits (s ++ rest) = some (s, rest) := by
  have taken : (s ++ rest).takeWhile Char.isDigit = s := by
    rw [List.takeWhile_append_of_pos digits.2]
    cases rest with
    | nil => rw [List.takeWhile_nil, List.append_nil]
    | cons c rest =>
      rw [List.takeWhile_cons_of_neg (by rw [ends c rfl]; exact Bool.false_ne_true), List.append_nil]
  have left : (s ++ rest).dropWhile Char.isDigit = rest := by
    rw [List.dropWhile_append_of_pos digits.2]
    cases rest with
    | nil => rfl
    | cons c rest => rw [List.dropWhile_cons_of_neg (by rw [ends c rfl]; exact Bool.false_ne_true)]
  rw [readDigits, taken, left]
  obtain ⟨c, more, rfl, -⟩ := digits.exists_cons
  rfl

theorem readSign_of_spelled {negative : Bool} (spelled : SignSpelled negative s) {digits : Text}
    (is_number : Digits digits) (rest : Text) : readSign (s ++ (digits ++ rest)) = (negative, digits ++ rest) := by
  cases spelled with
  | minus => rfl
  | plus => rfl
  | none =>
    obtain ⟨c, more, rfl, digit⟩ := is_number.exists_cons
    have no_minus : c ≠ '-' := by
      rintro rfl
      cases digit
    have no_plus : c ≠ '+' := by
      rintro rfl
      cases digit
    rw [List.nil_append, List.cons_append, readSign]
    · exact fun _ starts => no_minus (List.cons.inj starts).1
    · exact fun _ starts => no_plus (List.cons.inj starts).1

theorem readExponent_of_spelled {exponent : Option (Bool × Text)} (spelled : ExponentSpelled exponent s)
    (ends : EndsNumber rest) : readExponent (s ++ rest) = some (exponent, rest) := by
  cases spelled with
  | none =>
    cases rest with
    | nil => rfl
    | cons c rest =>
      obtain ⟨-, -, mark, mark'⟩ := ends c rfl
      rw [List.nil_append, readExponent, if_neg (not_or.mpr ⟨mark, mark'⟩)]
  | some is_mark signed is_number =>
    have read := readDigits_append is_number fun c mem => (ends c mem).1
    rw [List.cons_append, List.append_assoc, readExponent, if_pos is_mark, readSign_of_spelled signed is_number]
    simp only [read, Option.bind_eq_bind, Option.bind_some]
    rfl

/-- What follows the digits before the point, or those behind it, does not go on with digits. -/
theorem head?_of_exponentSpelled {exponent : Option (Bool × Text)} (spelled : ExponentSpelled exponent s)
    (ends : EndsNumber rest) : ∀ c ∈ (s ++ rest).head?, c.isDigit = false ∧ c ≠ '.' := by
  cases spelled with
  | none => exact fun c mem => ⟨(ends c mem).1, (ends c mem).2.1⟩
  | some is_mark =>
    rintro c ⟨⟩
    rcases is_mark with rfl | rfl
    · decide
    · decide

theorem head?_of_fractionSpelled {fraction : Option Text} (spelled : FractionSpelled fraction s)
    (ends : ∀ c ∈ rest.head?, c.isDigit = false) : ∀ c ∈ (s ++ rest).head?, c.isDigit = false := by
  cases spelled with
  | none => exact ends
  | some => rintro c ⟨⟩; rfl

theorem readFraction_of_spelled {fraction : Option Text} (spelled : FractionSpelled fraction s)
    (ends : ∀ c ∈ rest.head?, c.isDigit = false ∧ c ≠ '.') : readFraction (s ++ rest) = some (fraction, rest) := by
  cases spelled with
  | none =>
    cases rest with
    | nil => rfl
    | cons c rest =>
      rw [List.nil_append, readFraction]
      exact fun _ starts => (ends c rfl).2 (List.cons.inj starts).1
  | some is_number =>
    rw [List.cons_append, readFraction, readDigits_append is_number fun c mem => (ends c mem).1]
    rfl

theorem readWhole_of_spelled (spelled : s = ['0'] ∨ Digits s ∧ s.head? ≠ some '0')
    (ends : ∀ c ∈ rest.head?, c.isDigit = false) : readWhole (s ++ rest) = some (s, rest) := by
  rcases spelled with rfl | ⟨is_number, no_zero⟩
  · rfl
  · rw [readWhole, readDigits_append is_number ends]
    intro _ starts
    obtain ⟨c, more, rfl, -⟩ := is_number.exists_cons
    obtain ⟨rfl, -⟩ := List.cons.inj starts
    exact no_zero rfl

theorem Digits.of_whole (spelled : s = ['0'] ∨ Digits s ∧ s.head? ≠ some '0') : Digits s := by
  rcases spelled with rfl | ⟨is_number, -⟩
  · refine ⟨List.cons_ne_nil _ _, fun c mem => ?_⟩
    rw [List.mem_singleton.mp mem]
    rfl
  · exact is_number

/-- **A number is read as it is spelled**, up to where it ends. -/
theorem readNumber_of_spelled {n : Number} (spelled : NumberSpelled n s) (ends : EndsNumber rest) :
    readNumber (s ++ rest) = some (n, rest) := by
  obtain ⟨is_whole, fractional, scaled⟩ := spelled
  obtain ⟨negative, whole, fraction, exponent⟩ := n
  have after_fraction := head?_of_exponentSpelled scaled ends
  have after_whole := head?_of_fractionSpelled fractional fun c mem => (after_fraction c mem).1
  have read_whole := readWhole_of_spelled is_whole after_whole
  have read_fraction := readFraction_of_spelled fractional after_fraction
  have read_exponent := readExponent_of_spelled scaled ends
  simp only [List.append_assoc]
  cases negative with
  | true => simp [readNumber, read_whole, read_fraction, read_exponent]
  | false =>
    obtain ⟨c, more, rfl, digit⟩ := (Digits.of_whole is_whole).exists_cons
    simp only [Bool.false_eq_true, if_false, List.nil_append, List.cons_append] at read_whole ⊢
    unfold readNumber
    split
    next negative t signed =>
      split at signed
      next minus =>
        obtain ⟨rfl, -⟩ := List.cons.inj minus
        cases digit
      next =>
        obtain ⟨rfl, rfl⟩ := Prod.mk.inj signed
        simp [read_whole, read_fraction, read_exponent]

/-! ## Values -/

theorem skipSpace_skipSpace (s : Text) : skipSpace (skipSpace s) = skipSpace s := by
  induction s with
  | nil => rfl
  | cons c s ih =>
    cases space : isSpace c with
    | true =>
      have dropped : skipSpace (c :: s) = skipSpace s := List.dropWhile_cons_of_pos space
      rw [dropped, ih]
    | false => rw [skipSpace_cons space, skipSpace_cons space]

/-- The readers pass over space in front of what they read. -/
theorem readValue_skipSpace (bound : Nat) (s : Text) : readValue bound (skipSpace s) = readValue bound s := by
  cases bound with
  | zero => rw [readValue, readValue]
  | succ bound => rw [readValue, readValue, skipSpace_skipSpace]

theorem readItems_skipSpace (bound : Nat) (s : Text) : readItems bound (skipSpace s) = readItems bound s := by
  cases bound with
  | zero => rw [readItems, readItems]
  | succ bound => rw [readItems, readItems, readValue_skipSpace]

theorem readMembers_skipSpace (bound : Nat) (s : Text) : readMembers bound (skipSpace s) = readMembers bound s := by
  cases bound with
  | zero => rw [readMembers, readMembers]
  | succ bound => rw [readMembers, readMembers, skipSpace_skipSpace]

theorem not_isSpace_of_isDigit {c : Char} (digit : c.isDigit = true) : isSpace c = false := by
  refine Bool.eq_false_iff.mpr fun space => ?_
  simp only [isSpace, Bool.or_eq_true, decide_eq_true_eq] at space
  rcases space with ((rfl | rfl) | rfl) | rfl <;> cases digit

/-- A number starts with a digit or a minus sign. -/
theorem exists_cons_of_numberSpelled {n : Number} (spelled : NumberSpelled n s) :
    ∃ c more, s = c :: more ∧ (c = '-' ∨ c.isDigit = true) := by
  obtain ⟨whole, -, -⟩ := spelled
  obtain ⟨c, more, starts, digit⟩ := (Digits.of_whole whole).exists_cons
  cases n.negative with
  | true => exact ⟨'-', _, rfl, .inl rfl⟩
  | false =>
    rw [starts]
    exact ⟨c, _, rfl, .inr digit⟩

/-- A value starts with a character that is no space and closes nothing. -/
theorem exists_cons_of_spelled {j : Json} (spelled : Spelled (.value j) s) :
    ∃ c more, s = c :: more ∧ isSpace c = false ∧ c ≠ ']' := by
  cases spelled with
  | number spelled =>
    obtain ⟨c, more, rfl, rfl | digit⟩ := exists_cons_of_numberSpelled spelled
    · exact ⟨'-', more, rfl, by decide, by decide⟩
    · refine ⟨c, more, rfl, not_isSpace_of_isDigit digit, ?_⟩
      rintro rfl
      cases digit
  | null => exact ⟨_, _, rfl, by decide, by decide⟩
  | true => exact ⟨_, _, rfl, by decide, by decide⟩
  | false => exact ⟨_, _, rfl, by decide, by decide⟩
  | string => exact ⟨_, _, rfl, by decide, by decide⟩
  | emptyArray => exact ⟨_, _, rfl, by decide, by decide⟩
  | array => exact ⟨_, _, rfl, by decide, by decide⟩
  | emptyObject => exact ⟨_, _, rfl, by decide, by decide⟩
  | object => exact ⟨_, _, rfl, by decide, by decide⟩

theorem skipSpace_items {items : List Json} (spelled : Spelled (.items items) s) (rest : Text) :
    ∃ c more, skipSpace (s ++ rest) = c :: more ∧ c ≠ ']' := by
  have starts {before item : Text} {j : Json} (leading : Space before) (spelled : Spelled (.value j) item)
      (behind : Text) : ∃ c more, skipSpace (before ++ (item ++ behind)) = c :: more ∧ c ≠ ']' := by
    obtain ⟨c, more, rfl, token, opens⟩ := exists_cons_of_spelled spelled
    rw [skipSpace_append leading, List.cons_append, skipSpace_cons token]
    exact ⟨c, _, rfl, opens⟩
  cases spelled with
  | lastItem leading spelled =>
    rw [List.append_assoc, List.append_assoc]
    exact starts leading spelled _
  | item leading spelled =>
    rw [List.append_assoc, List.append_assoc]
    exact starts leading spelled _

theorem skipSpace_members {members : List (Literal × Json)} (spelled : Spelled (.members members) s) (rest : Text) :
    ∃ more, skipSpace (s ++ rest) = '"' :: more := by
  cases spelled with
  | lastMember leading =>
    rw [List.append_assoc, skipSpace_append leading, List.cons_append, skipSpace_cons (by decide)]
    exact ⟨_, rfl⟩
  | member leading =>
    rw [List.append_assoc, skipSpace_append leading, List.cons_append, skipSpace_cons (by decide)]
    exact ⟨_, rfl⟩

/-- What it means that a phrase is read: with enough depth, up to where it ends. -/
def Reads : Phrase → Text → Prop
  | .value j, s => ∀ (bound : Nat) (before rest : Text), 2 * s.length ≤ bound → Space before → EndsNumber rest →
      readValue bound (before ++ (s ++ rest)) = some (j, rest)
  | .items items, s => ∀ (bound : Nat) (rest : Text), 2 * s.length + 1 ≤ bound →
      readItems bound (s ++ ']' :: rest) = some (items, rest)
  | .members members, s => ∀ (bound : Nat) (rest : Text), 2 * s.length + 1 ≤ bound →
      readMembers bound (s ++ '}' :: rest) = some (members, rest)

theorem reads_of_token {j : Json} {c : Char}
    (read : ∀ bound rest, 2 * s.length ≤ bound → EndsNumber rest →
      readValue (bound + 1) (c :: (s ++ rest)) = some (j, rest)) :
    Reads (.value j) (c :: s) := by
  intro bound before rest deep space ends
  simp only [List.length_cons] at deep
  obtain ⟨bound, rfl⟩ : ∃ b, bound = b + 1 := ⟨bound - 1, by omega⟩
  rw [← readValue_skipSpace, skipSpace_append space, readValue_skipSpace]
  exact read bound rest (by omega) ends

theorem readValue_number {c : Char} (starts : c = '-' ∨ c.isDigit = true) (bound : Nat) (s : Text) :
    readValue (bound + 1) (c :: s) = (readNumber (c :: s)).map fun (n, rest) => (.number n, rest) := by
  rcases starts with rfl | digit
  · rw [readValue, skipSpace_cons (by decide)]
    rfl
  · rw [readValue, skipSpace_cons (not_isSpace_of_isDigit digit)]
    split
    case h_7 => rfl
    all_goals
      next other =>
        obtain ⟨rfl, -⟩ := List.cons.inj other
        cases digit

theorem readValue_array {items : List Json} {bound : Nat} (spelled : Spelled (.items items) s) (rest : Text)
    (read : readItems bound (s ++ ']' :: rest) = some (items, rest)) :
    readValue (bound + 1) ('[' :: (s ++ ']' :: rest)) = some (.array items, rest) := by
  obtain ⟨c, more, starts, opens⟩ := skipSpace_items spelled (']' :: rest)
  rw [← readItems_skipSpace, starts] at read
  rw [readValue, skipSpace_cons (by decide)]
  simp only [starts]
  split
  next closed => exact absurd (List.cons.inj closed).1 opens
  next => rw [read, Option.map_some]

theorem readValue_object {members : List (Literal × Json)} {bound : Nat} (spelled : Spelled (.members members) s)
    (rest : Text) (read : readMembers bound (s ++ '}' :: rest) = some (members, rest)) :
    readValue (bound + 1) ('{' :: (s ++ '}' :: rest)) = some (.object members, rest) := by
  obtain ⟨more, starts⟩ := skipSpace_members spelled ('}' :: rest)
  rw [← readMembers_skipSpace, starts] at read
  rw [readValue, skipSpace_cons (by decide)]
  simp only [starts]
  show (readMembers bound ('"' :: more)).map _ = _
  rw [read, Option.map_some]

/-- What follows an item decides how the items go on. -/
theorem readItems_item {bound : Nat} {after tail : Text} {item : Json} {next : Char}
    (read : readValue bound s = some (item, after ++ next :: tail)) (trailing : Space after)
    (token : isSpace next = false) :
    readItems (bound + 1) s =
      match next :: tail with
      | ',' :: rest => do
        let (items, rest) ← readItems bound rest
        return (item :: items, rest)
      | ']' :: rest => return ([item], rest)
      | _ => none := by
  rw [readItems, read, Option.bind_eq_bind, Option.bind_some]
  dsimp only
  rw [skipSpace_append trailing, skipSpace_cons token]
  rfl

/-- What follows the value of a member decides how the members go on. -/
theorem readMembers_member {bound : Nat} {before name behind after tail : Text} {parts : List StringPart} {value : Json}
    {next : Char} (leading : Space before) (named : PartsSpelled parts name) (space : Space behind)
    (read : readValue bound s = some (value, after ++ next :: tail)) (trailing : Space after)
    (token : isSpace next = false) :
    readMembers (bound + 1) (before ++ '"' :: (name ++ '"' :: (behind ++ ':' :: s))) =
      match next :: tail with
      | ',' :: rest => do
        let (members, rest) ← readMembers bound rest
        return ((denoted parts, value) :: members, rest)
      | '}' :: rest => return ([(denoted parts, value)], rest)
      | _ => none := by
  simp only [readMembers, skipSpace_append leading]
  rw [skipSpace_cons (by decide)]
  simp only [readString_of_spelled named, Option.bind_eq_bind, Option.bind_some, skipSpace_append space]
  rw [skipSpace_cons (by decide)]
  simp only [read, Option.bind_some, skipSpace_append trailing]
  rw [skipSpace_cons token]
  rfl

/-- **Every phrase is read as it is spelled.** -/
theorem reads_of_spelled {phrase : Phrase} (spelled : Spelled phrase s) : Reads phrase s := by
  have ends_comma (more : Text) : EndsNumber (',' :: more) :=
    endsNumber_cons (by decide) (by decide) (by decide) (by decide) more
  have ends_bracket (more : Text) : EndsNumber (']' :: more) :=
    endsNumber_cons (by decide) (by decide) (by decide) (by decide) more
  have ends_brace (more : Text) : EndsNumber ('}' :: more) :=
    endsNumber_cons (by decide) (by decide) (by decide) (by decide) more
  induction spelled with
  | null =>
    refine reads_of_token fun bound rest _ _ => ?_
    rw [readValue, skipSpace_cons (by decide)]
    rfl
  | true =>
    refine reads_of_token fun bound rest _ _ => ?_
    rw [readValue, skipSpace_cons (by decide)]
    rfl
  | false =>
    refine reads_of_token fun bound rest _ _ => ?_
    rw [readValue, skipSpace_cons (by decide)]
    rfl
  | number spelled =>
    obtain ⟨c, more, rfl, starts⟩ := exists_cons_of_numberSpelled spelled
    refine reads_of_token fun bound rest _ ends => ?_
    rw [readValue_number starts, ← List.cons_append, readNumber_of_spelled spelled ends, Option.map_some]
  | string spelled =>
    refine reads_of_token fun bound rest _ _ => ?_
    rw [readValue, skipSpace_cons (by decide)]
    simp [readString_of_spelled spelled]
  | emptyArray space =>
    refine reads_of_token fun bound rest _ _ => ?_
    rw [readValue, skipSpace_cons (by decide)]
    simp only [List.append_assoc, skipSpace_append space, List.cons_append, List.nil_append]
    rw [skipSpace_cons (by decide)]
    rfl
  | array spelled ih =>
    refine reads_of_token fun bound rest deep _ => ?_
    simp only [List.length_append, List.length_singleton] at deep
    rw [List.append_assoc]
    exact readValue_array spelled rest (ih bound rest (by omega))
  | emptyObject space =>
    refine reads_of_token fun bound rest _ _ => ?_
    rw [readValue, skipSpace_cons (by decide)]
    simp only [List.append_assoc, skipSpace_append space, List.cons_append, List.nil_append]
    rw [skipSpace_cons (by decide)]
    rfl
  | object spelled ih =>
    refine reads_of_token fun bound rest deep _ => ?_
    simp only [List.length_append, List.length_singleton] at deep
    rw [List.append_assoc]
    exact readValue_object spelled rest (ih bound rest (by omega))
  | lastItem leading spelled trailing ih =>
    intro bound rest deep
    simp only [List.length_append] at deep
    obtain ⟨bound, rfl⟩ : ∃ b, bound = b + 1 := ⟨bound - 1, by omega⟩
    have read := ih bound _ _ (by omega) leading (endsNumber_append trailing (ends_bracket rest))
    rw [List.append_assoc, List.append_assoc, readItems_item read trailing (by decide)]
    rfl
  | item leading spelled trailing others ih more =>
    intro bound rest deep
    simp only [List.length_append, List.length_cons] at deep
    obtain ⟨bound, rfl⟩ : ∃ b, bound = b + 1 := ⟨bound - 1, by omega⟩
    have read (behind : Text) := ih bound _ _ (by omega) leading (endsNumber_append trailing (ends_comma behind))
    have read_others := more bound rest (by omega)
    rw [List.append_assoc, List.append_assoc, List.append_assoc, List.cons_append,
      readItems_item (read _) trailing (by decide)]
    simp only [read_others, Option.bind_eq_bind, Option.bind_some]
    rfl
  | lastMember leading named space space' spelled trailing ih =>
    intro bound rest deep
    simp only [List.length_append, List.length_cons] at deep
    obtain ⟨bound, rfl⟩ : ∃ b, bound = b + 1 := ⟨bound - 1, by omega⟩
    have read := ih bound _ _ (by omega) space' (endsNumber_append trailing (ends_brace rest))
    simp only [List.append_assoc, List.cons_append]
    rw [readMembers_member leading named space read trailing (by decide)]
    rfl
  | member leading named space space' spelled trailing others ih more =>
    intro bound rest deep
    simp only [List.length_append, List.length_cons] at deep
    obtain ⟨bound, rfl⟩ : ∃ b, bound = b + 1 := ⟨bound - 1, by omega⟩
    have read (behind : Text) := ih bound _ _ (by omega) space' (endsNumber_append trailing (ends_comma behind))
    have read_others := more bound rest (by omega)
    simp only [List.append_assoc, List.cons_append]
    rw [readMembers_member leading named space (read _) trailing (by decide)]
    simp only [read_others, Option.bind_eq_bind, Option.bind_some]
    rfl

/-- **A text that spells a value is read as that value**, with any space around it. -/
theorem read?_of_spelled {j : Json} {before after : Text} (leading : Space before) (spelled : Spelled (.value j) s)
    (trailing : Space after) : read? (before ++ (s ++ after)) = some j := by
  have ends : EndsNumber after := by
    rw [← List.append_nil after]
    exact endsNumber_append trailing fun c => nofun
  have deep : 2 * s.length ≤ 2 * (before ++ (s ++ after)).length + 1 := by
    simp only [List.length_append]
    omega
  have nothing_left : skipSpace after = [] := by
    rw [← List.append_nil after, skipSpace_append trailing]
    rfl
  have read := reads_of_spelled spelled _ _ _ deep leading ends
  simp only [read?, read, nothing_left, if_true]

end PortRelease.Json
