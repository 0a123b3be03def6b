import PortRelease.Text.Blank
/-!
# Lines, words and trimmed text

Tools answer in lines of blank-separated words. A text is a list of characters, and each cut is a recursion
on it.

A line ends at a line feed, and one carriage return before that line feed belongs to the ending; a carriage
return elsewhere is an ordinary (blank) character, and what follows the last line feed is a line unless it is
empty. A word is a longest stretch without blanks.
-/

namespace PortRelease

/-- A text, as the list of its characters. -/
abbrev Text := List Char

namespace Text

/-- The lines of a text, without their endings. -/
def lines : Text → List Text
  | [] => []
  | '\n' :: rest => [] :: lines rest
  | '\r' :: '\n' :: rest => [] :: lines rest
  | c :: rest =>
    match lines rest with
    | [] => [[c]]
    | line :: more => (c :: line) :: more

/-- The pieces between the characters that `cut` picks out: one more than there are such characters. -/
def pieces (cut : Char → Bool) : Text → List Text
  | [] => [[]]
  | c :: rest =>
    if cut c then [] :: pieces cut rest
    else
      match pieces cut rest with
      | [] => [[c]]
      | piece :: more => (c :: piece) :: more

/-- The words of a text: its non-empty pieces between blanks. -/
def words (s : Text) : List Text :=
  (pieces isBlank s).filter fun piece => !piece.isEmpty

/-- A text without the blanks at its two ends. -/
def trim (s : Text) : Text :=
  ((s.dropWhile isBlank).reverse.dropWhile isBlank).reverse

/-- The texts one after another with `glue` between neighbours. -/
def join (glue : Text) : List Text → Text
  | [] => []
  | [s] => s
  | s :: more => s ++ glue ++ join glue more

/-- Whether `part` occurs somewhere in the text. -/
def contains (part : Text) : Text → Bool
  | [] => part.isEmpty
  | c :: rest => part.isPrefixOf (c :: rest) || contains part rest

/-- Parts a text at the last occurrence of `mark`: what stands before it and what stands after it. -/
def splitLast (mark : Char) : Text → Option (Text × Text)
  | [] => none
  | c :: rest =>
    match splitLast mark rest with
    | some (before, after) => some (c :: before, after)
    | none => if c = mark then some ([], rest) else none

/-- Parts a text at the first occurrence of `mark`. -/
def splitFirst (mark : Char) : Text → Option (Text × Text)
  | [] => none
  | c :: rest =>
    if c = mark then some ([], rest)
    else (splitFirst mark rest).map fun (before, after) => (c :: before, after)

theorem pieces_ne_nil (cut : Char → Bool) (s : Text) : pieces cut s ≠ [] := by
  fun_cases pieces cut s <;> simp

theorem pieces_append {cut : Char → Bool} {c : Char} (h : cut c) (a b : Text) :
    pieces cut (a ++ c :: b) = pieces cut a ++ pieces cut b := by
  induction a with
  | nil => simp [pieces, h]
  | cons first rest ih =>
    obtain ⟨piece, more, split⟩ := List.exists_cons_of_ne_nil (pieces_ne_nil cut rest)
    simp only [List.cons_append, pieces, ih, split]
    split <;> rfl

/-- **A blank ends a word**, and that is all it does. -/
theorem words_append {c : Char} (h : isBlank c) (a b : Text) : words (a ++ c :: b) = words a ++ words b := by
  rw [words, pieces_append h, List.filter_append]
  rfl

theorem eq_of_splitLast {mark : Char} {s before after : Text}
    (h : splitLast mark s = some (before, after)) : s = before ++ mark :: after := by
  induction s generalizing before after with
  | nil => simp [splitLast] at h
  | cons c rest ih =>
    simp only [splitLast] at h
    split at h
    next b a hb =>
      obtain ⟨rfl, rfl⟩ := by simpa using h
      rw [ih hb, List.cons_append]
    next =>
      split at h
      next hc =>
        obtain ⟨rfl, rfl⟩ := by simpa using h
        rw [hc, List.nil_append]
      next => simp at h

theorem eq_of_splitFirst {mark : Char} {s before after : Text}
    (h : splitFirst mark s = some (before, after)) : s = before ++ mark :: after := by
  induction s generalizing before after with
  | nil => simp [splitFirst] at h
  | cons c rest ih =>
    simp only [splitFirst] at h
    split at h
    next hc =>
      obtain ⟨rfl, rfl⟩ := by simpa using h
      rw [hc, List.nil_append]
    next =>
      obtain ⟨⟨b, a⟩, hb, heq⟩ := Option.map_eq_some_iff.1 h
      obtain ⟨rfl, rfl⟩ := by simpa using heq
      rw [ih hb, List.cons_append]

theorem splitFirst_append {mark : Char} {before : Text} (h : mark ∉ before) (after : Text) :
    splitFirst mark (before ++ mark :: after) = some (before, after) := by
  induction before with
  | nil => rw [List.nil_append, splitFirst, if_pos rfl]
  | cons c before ih =>
    have differs : mark ≠ c := List.ne_of_not_mem_cons h
    rw [List.cons_append, splitFirst, if_neg differs.symm, ih (List.not_mem_of_not_mem_cons h), Option.map_some]

theorem not_mem_of_splitFirst {mark : Char} {s before after : Text}
    (h : splitFirst mark s = some (before, after)) : mark ∉ before := by
  induction s generalizing before with
  | nil => cases h
  | cons c rest ih =>
    simp only [splitFirst] at h
    split at h
    next =>
      obtain ⟨rfl, -⟩ := Prod.mk.inj (Option.some.inj h)
      exact List.not_mem_nil
    next differs =>
      obtain ⟨⟨b, a⟩, hb, heq⟩ := Option.map_eq_some_iff.1 h
      obtain ⟨rfl, rfl⟩ := Prod.mk.inj heq
      exact List.not_mem_cons_of_ne_of_not_mem (Ne.symm differs) (ih hb)

theorem not_mem_of_splitFirst_eq_none {mark : Char} {s : Text} (h : splitFirst mark s = none) : mark ∉ s := by
  intro mem
  obtain ⟨before, after, rfl, absent⟩ := List.eq_append_cons_of_mem mem
  rw [splitFirst_append absent] at h
  cases h

theorem splitLast_eq_none {mark : Char} {s : Text} (h : mark ∉ s) : splitLast mark s = none := by
  induction s with
  | nil => rfl
  | cons c rest ih =>
    have differs : mark ≠ c := List.ne_of_not_mem_cons h
    rw [splitLast, ih (List.not_mem_of_not_mem_cons h)]
    exact if_neg differs.symm

theorem not_mem_of_splitLast_eq_none {mark : Char} {s : Text} (h : splitLast mark s = none) : mark ∉ s := by
  induction s with
  | nil => exact List.not_mem_nil
  | cons c rest ih =>
    simp only [splitLast] at h
    split at h
    next => cases h
    next none =>
      split at h
      next => cases h
      next differs => exact List.not_mem_cons_of_ne_of_not_mem (Ne.symm differs) (ih none)

theorem not_mem_of_splitLast {mark : Char} {s before after : Text}
    (h : splitLast mark s = some (before, after)) : mark ∉ after := by
  induction s generalizing before with
  | nil => cases h
  | cons c rest ih =>
    simp only [splitLast] at h
    split at h
    next b a hb =>
      obtain ⟨-, rfl⟩ := Prod.mk.inj (Option.some.inj h)
      exact ih hb
    next none =>
      split at h
      next =>
        obtain ⟨-, rfl⟩ := Prod.mk.inj (Option.some.inj h)
        exact not_mem_of_splitLast_eq_none none
      next => cases h

theorem splitLast_append {mark : Char} {after : Text} (h : mark ∉ after) (before : Text) :
    splitLast mark (before ++ mark :: after) = some (before, after) := by
  induction before with
  | nil =>
    rw [List.nil_append, splitLast, splitLast_eq_none h]
    exact if_pos rfl
  | cons c before ih => rw [List.cons_append, splitLast, ih]

end Text

end PortRelease
