import PortRelease.Json.Printer
import PortRelease.Proofs.Json.Grammar
import PortRelease.Proofs.Text.Numeral
import PortRelease.Proofs.Text.Written
/-!
# Written JSON is JSON

What is written for a string spells that string, whatever characters it has, and what is written for a natural number
spells that number. In both layouts an object spells its members if each of its values spells itself (`spelled_object`,
`spelled_compact_object`), so what holds of the parts of a record holds of the record.
-/

namespace PortRelease.Json

/-! ## Strings -/

/-- The part of a string that a character is written as: the control characters without a short form are codes. -/
def writtenPart (c : Char) : StringPart :=
  if c.toNat < 0x20 ∧ c ∉ ['\x08', '\x0c', '\n', '\r', '\t'] then .code c.toNat else .char c

theorem hexCode?_control : ∀ n < 0x20, hexCode? '0' '0' (hexDigit (n / 16)) (hexDigit (n % 16)) = some n := by decide

theorem partSpelled_escape (c : Char) : PartSpelled (writtenPart c) (escape c) := by
  by_cases short : c ∈ ['"', '\\', '\x08', '\x0c', '\n', '\r', '\t']
  · simp only [List.mem_cons, List.not_mem_nil, or_false] at short
    rcases short with rfl | rfl | rfl | rfl | rfl | rfl | rfl <;> exact .short rfl
  · simp only [List.mem_cons, List.not_mem_nil, or_false, not_or] at short
    obtain ⟨quote, backslash, backspace, feed, newline, return_, tab⟩ := short
    have no_short : c ∉ ['\x08', '\x0c', '\n', '\r', '\t'] := by simp [*]
    rw [escape, if_neg quote, if_neg backslash, if_neg backspace, if_neg feed, if_neg newline, if_neg return_,
      if_neg tab, writtenPart]
    by_cases control : c.toNat < 0x20
    · rw [if_pos control, if_pos ⟨control, no_short⟩]
      exact .code (hexCode?_control c.toNat control)
    · rw [if_neg control, if_neg fun h => control h.1]
      exact .plain (Nat.not_lt.mp control) quote backslash

theorem partsSpelled_escape (s : Text) : PartsSpelled (s.map writtenPart) (s.flatMap escape) := by
  induction s with
  | nil => exact .nil
  | cons c s ih => exact .cons (partSpelled_escape c) ih

/-- A code that is no half of a surrogate pair stands for its character, whatever follows. -/
theorem denoted_code {n : Nat} (no_lead : isLeading n = false) (no_trail : isTrailing n = false)
    (parts : List StringPart) : denoted (.code n :: parts) = (denoted parts).map (Char.ofNat n :: ·) := by
  cases parts with
  | nil => simp [denoted, no_lead, no_trail]
  | cons part parts =>
    cases part with
    | char c => simp [denoted, no_lead, no_trail]
    | code m => simp [denoted, no_lead, no_trail]

theorem denoted_writtenPart (c : Char) (parts : List StringPart) :
    denoted (writtenPart c :: parts) = (denoted parts).map (c :: ·) := by
  unfold writtenPart
  split
  next control =>
    have no_lead : isLeading c.toNat = false := by simp [isLeading]; omega
    have no_trail : isTrailing c.toNat = false := by simp [isTrailing]; omega
    rw [denoted_code no_lead no_trail, Char.ofNat_toNat]
  next => rw [denoted]

theorem denoted_writtenParts (s : Text) : denoted (s.map writtenPart) = some s := by
  induction s with
  | nil => rfl
  | cons c s ih => rw [List.map_cons, denoted_writtenPart, ih, Option.map_some]

/-- **What is written for a string spells that string.** -/
theorem exists_writeString_eq (literal : Literal) : ∃ parts s, writeString literal = '"' :: (s ++ ['"']) ∧
    PartsSpelled parts s ∧ denoted parts = literal := by
  cases literal with
  | some s => exact ⟨_, _, rfl, partsSpelled_escape s, denoted_writtenParts s⟩
  | none =>
    have code : PartSpelled (.code 0xD800) "\\ud800".toList := .code (by decide)
    exact ⟨_, _, rfl, .cons code .nil, rfl⟩

theorem spelled_string (literal : Literal) : Spelled (.value (.string literal)) (writeString literal) := by
  obtain ⟨parts, s, written, spelled, rfl⟩ := exists_writeString_eq literal
  rw [written]
  exact .string spelled

/-! ## Numbers -/

theorem digits_render (n : Nat) : Digits (Numeral.render n) :=
  ⟨Nat.toDigits_ne_nil, fun _ mem => Numeral.isDigit_of_mem_render mem⟩

/-- Only zero is written with a zero in front. -/
theorem head?_render {n : Nat} (positive : 0 < n) : (Numeral.render n).head? ≠ some '0' := by
  induction n using Nat.strongRecOn with
  | ind n ih =>
    unfold Numeral.render at ih ⊢
    by_cases small : n < 10
    · rw [Nat.toDigits_of_lt_base small]
      have nonzero : ∀ d < 10, 0 < d → [Nat.digitChar d].head? ≠ some '0' := by decide
      exact nonzero n small positive
    · have front : 0 < n / 10 := by omega
      have split : Nat.toDigits 10 (n / 10) ++ Nat.toDigits 10 (n % 10) = Nat.toDigits 10 n := by
        rw [Nat.toDigits_append_toDigits (by decide) front (Nat.mod_lt n (by decide)), Nat.div_add_mod]
      obtain ⟨c, more, starts⟩ := List.exists_cons_of_ne_nil (Nat.toDigits_ne_nil (n := n / 10) (b := 10))
      have nonzero := ih (n / 10) (by omega) front
      rw [starts] at nonzero split
      rwa [← split]

/-- **What is written for a natural number spells that number.** -/
theorem spelled_ofNat (n : Nat) : Spelled (.value (ofNat n)) (writeNumber (Number.ofNat n)) := by
  have whole : Numeral.render n = ['0'] ∨ Digits (Numeral.render n) ∧ (Numeral.render n).head? ≠ some '0' := by
    rcases Nat.eq_zero_or_pos n with rfl | positive
    · exact .inl rfl
    · exact .inr ⟨digits_render n, head?_render positive⟩
  have spelled : NumberSpelled (Number.ofNat n) ([] ++ (Numeral.render n ++ ([] ++ []))) := .intro whole .none .none
  have written : writeNumber (Number.ofNat n) = [] ++ (Numeral.render n ++ ([] ++ [])) := by
    simp [writeNumber, Number.ofNat]
  rw [written]
  exact .number spelled

/-! ## Objects -/

theorem space_newline (level : Nat) : Space (newline level) := by
  intro c mem
  rcases List.mem_cons.mp mem with rfl | indentation
  · rfl
  · rw [List.eq_of_mem_replicate indentation]
    rfl

theorem space_nil : Space [] := fun _ => nofun

variable {level : Nat} {members : List (Literal × Json)} {before gap after : Text} {write : Json → Text}

/-- Members between commas, with some space in front of each, behind each colon and behind the last one, spell
themselves, if their values do. -/
theorem spelled_members (some_member : members ≠ []) (leading : Space before) (between : Space gap)
    (trailing : Space after) (values : ∀ member ∈ members, Spelled (.value member.2) (write member.2)) :
    Spelled (.members members) (before ++ (Text.join (',' :: before)
      (members.map fun member => writeString member.1 ++ ':' :: (gap ++ write member.2)) ++ after)) := by
  induction members with
  | nil => exact absurd rfl some_member
  | cons member more ih =>
    obtain ⟨name, value⟩ := member
    obtain ⟨parts, named, written, spelled_name, rfl⟩ := exists_writeString_eq name
    have spelled : Spelled (.value value) (write value) := values _ List.mem_cons_self
    cases more with
    | nil =>
      have last := Spelled.lastMember leading spelled_name space_nil between spelled trailing
      simpa [Text.join, written] using last
    | cons next more =>
      have others := ih (List.cons_ne_nil next more) fun member mem => values member (List.mem_cons_of_mem _ mem)
      have first := Spelled.member leading spelled_name space_nil between spelled space_nil others
      simpa [Text.join_word, written] using first

theorem indentedMembers_eq_map (level : Nat) (members : List (Literal × Json)) :
    indentedMembers level members =
      members.map fun member => writeString member.1 ++ ':' :: ([' '] ++ indentedAt level member.2) := by
  induction members with
  | nil => rfl
  | cons member more ih =>
    rw [indentedMembers, ih]
    rfl

theorem compactMembers_eq_map (members : List (Literal × Json)) :
    compactMembers members = members.map fun member => writeString member.1 ++ ':' :: ([] ++ compact member.2) := by
  induction members with
  | nil => rfl
  | cons member more ih =>
    rw [compactMembers, ih]
    rfl

/-- **An object in the indented layout spells itself**, if its values do. -/
theorem spelled_object (values : ∀ member ∈ members, Spelled (.value member.2) (indentedAt (level + 1) member.2)) :
    Spelled (.value (.object members)) (indentedAt level (.object members)) := by
  rw [indentedAt]
  cases members with
  | nil => exact .emptyObject space_nil
  | cons member more =>
    have one_space : Space [' '] := by decide
    have spelled := spelled_members (List.cons_ne_nil member more) (space_newline (level + 1)) one_space
      (space_newline level) values
    rw [← indentedMembers_eq_map] at spelled
    have written : bracketed '{' '}' level (indentedMembers (level + 1) (member :: more)) =
        '{' :: (newline (level + 1) ++ (Text.join (',' :: newline (level + 1))
          (indentedMembers (level + 1) (member :: more)) ++ newline level) ++ ['}']) := by
      rw [indentedMembers, bracketed]
      · simp
      · exact nofun
    rw [written]
    exact .object spelled

/-- **And so does one in the compact layout.** -/
theorem spelled_compact_object (values : ∀ member ∈ members, Spelled (.value member.2) (compact member.2)) :
    Spelled (.value (.object members)) (compact (.object members)) := by
  rw [compact]
  cases members with
  | nil => exact .emptyObject space_nil
  | cons member more =>
    have spelled := spelled_members (List.cons_ne_nil member more) space_nil space_nil space_nil values
    rw [← compactMembers_eq_map, List.nil_append, List.append_nil] at spelled
    exact .object spelled

end PortRelease.Json
