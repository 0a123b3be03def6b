import PortRelease.Listing.Sockets
/-!
# How owners are found in a text

An owner is recognised by a quoted name and the numbers behind it. The search goes from quote to quote: a quote starts
an owner just if the numbers stand behind the next quote (`ownerHere?_quoted`). So every number that is found stands
behind some quote (`spells_of_mem_ownerTexts`), and a name is passed over whole just if the numbers of an owner stand
behind none of the quotes inside it (`ownerTexts_named`, `exists_ownerTexts_of_spells`).
-/

namespace PortRelease

theorem Text.after?_eq_some_iff {part s rest : Text} : after? part s = some rest ↔ s = part ++ rest := by
  induction part generalizing s with
  | nil => rw [after?, Option.some.injEq, List.nil_append]
  | cons p part ih =>
    cases s with
    | nil => exact iff_of_false (Option.some_ne_none rest).symm (List.cons_ne_nil p (part ++ rest)).symm
    | cons c s =>
      rw [after?, List.cons_append, List.cons.injEq]
      by_cases same : p = c
      · rw [if_pos same, ih, and_iff_right same.symm]
      · rw [if_neg same]
        exact iff_of_false (Option.some_ne_none rest).symm fun h => same h.1.symm

/-- A text holds no mark, or it has a first one. -/
@[elab_as_elim]
theorem Text.byMark (mark : Char) {motive : Text → Prop} (unmarked : ∀ s, mark ∉ s → motive s)
    (marked : ∀ before after, mark ∉ before → motive after → motive (before ++ mark :: after)) (s : Text) :
    motive s := by
  -- the text is read from left to right, and `before` is what was read since the last mark
  suffices from_here : ∀ before, mark ∉ before → motive (before ++ s) from from_here [] List.not_mem_nil
  induction s with
  | nil =>
    intro before absent
    exact unmarked _ (by rwa [List.append_nil])
  | cons c s ih =>
    intro before absent
    by_cases same : c = mark
    · rw [same]
      exact marked before s absent (ih [] List.not_mem_nil)
    · rw [List.append_cons]
      refine ih _ fun mem => ?_
      rcases List.mem_append.mp mem with mem | mem
      · exact absent mem
      · exact same (List.mem_singleton.mp mem).symm

namespace Listing

variable {name pid rest s tail : Text}

/-! ## Numbers -/

/-- A text does not start with a decimal digit. -/
def EndsDigits (s : Text) : Prop := ∀ c ∈ s.head?, isDecimalDigit c = false

theorem EndsDigits.takeWhile_dropWhile (ends : EndsDigits s) :
    s.takeWhile isDecimalDigit = [] ∧ s.dropWhile isDecimalDigit = s := by
  cases s with
  | nil => exact ⟨rfl, rfl⟩
  | cons c s =>
    have no_digit : isDecimalDigit c = false := ends c rfl
    rw [List.takeWhile_cons, List.dropWhile_cons, no_digit]
    exact ⟨rfl, rfl⟩

theorem digits?_append (some_digit : pid ≠ []) (digits : ∀ c ∈ pid, isDecimalDigit c = true)
    (ends : EndsDigits tail) : digits? (pid ++ tail) = some (pid, tail) := by
  obtain ⟨none_taken, all_left⟩ := ends.takeWhile_dropWhile
  have taken : (pid ++ tail).takeWhile isDecimalDigit = pid := by
    rw [List.takeWhile_append_of_pos digits, none_taken, List.append_nil]
  have left : (pid ++ tail).dropWhile isDecimalDigit = tail := by
    rw [List.dropWhile_append_of_pos digits, all_left]
  unfold digits?
  rw [taken, left]
  split
  next => exact absurd rfl some_digit
  next => rfl

/-- What follows the digits at the start of a text does not start with one. -/
theorem endsDigits_dropWhile (s : Text) : EndsDigits (s.dropWhile isDecimalDigit) := by
  intro c first
  have := List.head?_dropWhile_not isDecimalDigit s
  rw [Option.mem_def.mp first] at this
  exact this

theorem eq_of_digits? {found : Text} (h : digits? s = some (found, rest)) :
    s = found ++ rest ∧ found ≠ [] ∧ ∀ c ∈ found, isDecimalDigit c = true := by
  unfold digits? at h
  split at h
  next => cases h
  next some_digit =>
    obtain ⟨rfl, rfl⟩ := Prod.mk.inj (Option.some.inj h)
    exact ⟨List.takeWhile_append_dropWhile.symm, some_digit, List.all_eq_true.mp List.all_takeWhile⟩

/-- The digits of an owner's id behind its name, and what follows its numbers. -/
def numbers? (s : Text) : Option (Text × Text) := do
  let (pid, afterPid) ← digits? (← Text.after? ",pid=".toList s)
  let (_, rest) ← digits? (← Text.after? ",fd=".toList afterPid)
  return (pid, rest)

theorem numbers?_append {fd : Text} (some_pid : pid ≠ []) (pid_digits : ∀ c ∈ pid, isDecimalDigit c = true)
    (some_fd : fd ≠ []) (fd_digits : ∀ c ∈ fd, isDecimalDigit c = true) (ends : EndsDigits tail) :
    numbers? (",pid=".toList ++ (pid ++ (",fd=".toList ++ (fd ++ tail)))) = some (pid, tail) := by
  have comma : EndsDigits (",fd=".toList ++ (fd ++ tail)) := by
    rintro c ⟨⟩
    decide
  rw [numbers?, Text.after?_eq_some_iff.mpr rfl]
  simp only [Option.bind_eq_bind, Option.bind_some, digits?_append some_pid pid_digits comma,
    Text.after?_eq_some_iff.mpr (Eq.refl (",fd=".toList ++ (fd ++ tail))), digits?_append some_fd fd_digits ends]
  rfl

/-- A text starts as what stands behind an owner's name: `,pid=`, digits, `,fd=` and a digit. -/
def StartsNumbers (pid s : Text) : Prop :=
  ∃ fd rest, s = ",pid=".toList ++ (pid ++ (",fd=".toList ++ fd :: rest)) ∧ pid ≠ [] ∧
    (∀ c ∈ pid, isDecimalDigit c = true) ∧ isDecimalDigit fd = true

theorem StartsNumbers.append_right (starts : StartsNumbers pid s) (more : Text) : StartsNumbers pid (s ++ more) := by
  obtain ⟨d, rest, rfl, some_pid, pid_digits, d_digit⟩ := starts
  refine ⟨d, rest ++ more, ?_, some_pid, pid_digits, d_digit⟩
  simp only [List.append_assoc, List.cons_append]

theorem eq_of_numbers? (h : numbers? s = some (pid, rest)) :
    ∃ numbers, s = numbers ++ rest ∧ StartsNumbers pid numbers := by
  simp only [numbers?, bind, Option.bind_eq_some_iff, pure, Prod.exists] at h
  obtain ⟨behind, mark, pid', afterPid, digits, behindMark, mark', fd, rest', digits', same⟩ := h
  obtain ⟨rfl, rfl⟩ := Prod.mk.inj (Option.some.inj same)
  obtain rfl := Text.after?_eq_some_iff.mp mark
  obtain rfl := Text.after?_eq_some_iff.mp mark'
  obtain ⟨rfl, some_pid, pid_digits⟩ := eq_of_digits? digits
  obtain ⟨rfl, some_fd, fd_digits⟩ := eq_of_digits? digits'
  obtain ⟨d, more, rfl⟩ := List.exists_cons_of_ne_nil some_fd
  refine ⟨",pid=".toList ++ (pid' ++ (",fd=".toList ++ d :: more)), ?_, d, more, rfl, some_pid, pid_digits,
    fd_digits d List.mem_cons_self⟩
  simp only [List.append_assoc, List.cons_append]

theorem startsNumbers_of_numbers? (h : numbers? s = some (pid, rest)) : StartsNumbers pid s := by
  obtain ⟨numbers, rfl, starts⟩ := eq_of_numbers? h
  exact starts.append_right rest

theorem exists_numbers?_of_startsNumbers (h : StartsNumbers pid s) : ∃ rest, numbers? s = some (pid, rest) := by
  obtain ⟨d, rest, rfl, some_pid, pid_digits, d_digit⟩ := h
  have some_fd : (d :: rest).takeWhile isDecimalDigit ≠ [] := by
    rw [List.takeWhile_cons_of_pos d_digit]
    exact List.cons_ne_nil _ _
  have fd_digits := List.all_eq_true.mp (List.all_takeWhile (l := d :: rest) (p := isDecimalDigit))
  have found := numbers?_append some_pid pid_digits some_fd fd_digits (endsDigits_dropWhile (d :: rest))
  rw [List.takeWhile_append_dropWhile] at found
  exact ⟨_, found⟩

/-- A start without a certain mark stands before any occurrence of the mark. -/
theorem exists_append_of_not_mem {mark : Char} {start more : Text} (absent : mark ∉ start)
    (split : s ++ mark :: rest = start ++ more) : ∃ between, s = start ++ between := by
  rcases List.append_eq_append_iff.mp split with ⟨between, whole, left⟩ | ⟨between, whole, -⟩
  · cases between with
    | nil => exact ⟨[], by rw [whole, List.append_nil, List.append_nil]⟩
    | cons c between =>
      obtain ⟨rfl, -⟩ := List.cons.inj left
      exact absurd (whole ▸ List.mem_append_right s List.mem_cons_self) absent
  · exact ⟨between, whole⟩

/-- The numbers hold no quote, so they stand before any that follows. -/
theorem startsNumbers_of_append_quote (h : StartsNumbers pid (s ++ '"' :: rest)) : StartsNumbers pid s := by
  obtain ⟨d, more, split, some_pid, pid_digits, d_digit⟩ := h
  have no_quote : '"' ∉ ",pid=".toList ++ pid ++ ",fd=".toList ++ [d] := by
    have quote_no_digit : isDecimalDigit '"' = false := by decide
    simp only [List.mem_append, List.mem_singleton, not_or]
    refine ⟨⟨⟨by decide, fun mem => ?_⟩, by decide⟩, fun same => ?_⟩
    · rw [pid_digits _ mem] at quote_no_digit
      cases quote_no_digit
    · rw [same, d_digit] at quote_no_digit
      cases quote_no_digit
  have split : s ++ '"' :: rest = (",pid=".toList ++ pid ++ ",fd=".toList ++ [d]) ++ more := by
    simpa only [List.append_assoc, List.singleton_append] using split
  obtain ⟨between, rfl⟩ := exists_append_of_not_mem no_quote split
  refine ⟨d, between, ?_, some_pid, pid_digits, d_digit⟩
  simp only [List.append_assoc, List.singleton_append]

/-- A text spells an owner's id: the numbers of an owner stand behind a quote. -/
def Spells (pid s : Text) : Prop := ∃ before after, s = before ++ '"' :: after ∧ StartsNumbers pid after

theorem not_spells_of_no_quote (no_quote : '"' ∉ s) : ¬ Spells pid s := by
  rintro ⟨before, after, rfl, -⟩
  exact no_quote (List.mem_append_right before List.mem_cons_self)

theorem Spells.append_left (spells : Spells pid s) (before : Text) : Spells pid (before ++ s) := by
  obtain ⟨inside, after, rfl, starts⟩ := spells
  exact ⟨before ++ inside, after, (List.append_assoc ..).symm, starts⟩

/-- What is spelled around a quote is spelled before it, right behind it, or later. -/
theorem spells_append_quote :
    Spells pid (s ++ '"' :: rest) ↔ Spells pid s ∨ StartsNumbers pid rest ∨ Spells pid rest := by
  constructor
  · rintro ⟨before, after, split, starts⟩
    rcases List.append_eq_append_iff.mp split with ⟨between, rfl, later⟩ | ⟨between, rfl, earlier⟩
    · cases between with
      | nil => exact .inr (.inl ((List.cons.inj later).2 ▸ starts))
      | cons c between =>
        obtain ⟨-, rfl⟩ := List.cons.inj later
        exact .inr (.inr ⟨between, after, rfl, starts⟩)
    · cases between with
      | nil => exact .inr (.inl ((List.cons.inj earlier).2 ▸ starts))
      | cons c between =>
        obtain ⟨rfl, rfl⟩ := List.cons.inj earlier
        exact .inl ⟨before, between, rfl, startsNumbers_of_append_quote starts⟩
  · rintro (⟨before, after, rfl, starts⟩ | starts | spells)
    · exact ⟨before, after ++ '"' :: rest, by rw [List.append_assoc, List.cons_append], starts.append_right _⟩
    · exact ⟨s, rest, rfl, starts⟩
    · rw [List.append_cons]
      exact spells.append_left _

/-! ## Owners -/

theorem ownerHere?_of_ne {c : Char} (no_quote : c ≠ '"') (s : Text) : ownerHere? (c :: s) = none := by
  rw [ownerHere?, Text.after?, if_neg no_quote.symm]
  rfl

/-- A quote starts an owner just if the numbers stand behind the next quote. -/
theorem ownerHere?_quoted (no_quote : '"' ∉ name) (rest : Text) :
    ownerHere? ('"' :: (name ++ '"' :: rest)) = numbers? rest := by
  rw [ownerHere?, Text.after?, if_pos rfl, Text.after?]
  simp only [Option.bind_eq_bind, Option.bind_some, Text.splitFirst_append no_quote]
  rfl

theorem ownerHere?_unquoted (no_quote : '"' ∉ s) : ownerHere? ('"' :: s) = none := by
  have unsplit : Text.splitFirst '"' s = none := by
    cases split : Text.splitFirst '"' s with
    | none => rfl
    | some parts =>
      rw [Text.eq_of_splitFirst split] at no_quote
      exact absurd (List.mem_append_right _ List.mem_cons_self) no_quote
  rw [ownerHere?, Text.after?, if_pos rfl, Text.after?]
  simp only [Option.bind_eq_bind, Option.bind_some, unsplit]
  rfl

theorem eq_of_ownerHere? (h : ownerHere? s = some (pid, rest)) :
    ∃ name numbers, s = '"' :: (name ++ '"' :: (numbers ++ rest)) ∧ StartsNumbers pid numbers := by
  cases s with
  | nil => cases h
  | cons c s =>
    by_cases quote : c = '"'
    · subst quote
      cases split : Text.splitFirst '"' s with
      | none =>
        rw [ownerHere?_unquoted (Text.not_mem_of_splitFirst_eq_none split)] at h
        cases h
      | some parts =>
        obtain rfl := Text.eq_of_splitFirst split
        rw [ownerHere?_quoted (Text.not_mem_of_splitFirst split)] at h
        obtain ⟨numbers, behind, starts⟩ := eq_of_numbers? h
        exact ⟨parts.1, numbers, by rw [behind], starts⟩
    · rw [ownerHere?_of_ne quote] at h
      cases h

theorem ownerTexts_of_owner (h : ownerHere? s = some (pid, rest)) : ownerTexts s = pid :: ownerTexts rest := by
  cases s with
  | nil => cases h
  | cons c s =>
    rw [ownerTexts]
    split
    next pid' rest' h' =>
      obtain ⟨rfl, rfl⟩ := Prod.mk.inj (Option.some.inj (h'.symm.trans h))
      rfl
    next h' => cases h'.symm.trans h

theorem ownerTexts_of_none {c : Char} (h : ownerHere? (c :: s) = none) : ownerTexts (c :: s) = ownerTexts s := by
  rw [ownerTexts]
  split
  next h' => cases h'.symm.trans h
  next => rfl

theorem ownerTexts_append_of_no_quote (no_quote : '"' ∉ name) (s : Text) : ownerTexts (name ++ s) = ownerTexts s := by
  induction name with
  | nil => rfl
  | cons c name ih =>
    have differs : '"' ≠ c := List.ne_of_not_mem_cons no_quote
    rw [List.cons_append, ownerTexts_of_none (ownerHere?_of_ne differs.symm _)]
    exact ih (List.not_mem_of_not_mem_cons no_quote)

theorem ownerTexts_of_no_quote (no_quote : '"' ∉ s) : ownerTexts s = [] := by
  have passed := ownerTexts_append_of_no_quote no_quote []
  rw [List.append_nil] at passed
  rw [passed, ownerTexts]

/-- **Every number that is found is spelled behind a quote.** -/
theorem spells_of_mem_ownerTexts (mem : pid ∈ ownerTexts s) : Spells pid s := by
  fun_induction ownerTexts s with
  | case1 => cases mem
  | case2 c s pid' rest found ih =>
    obtain ⟨name, numbers, split, starts⟩ := eq_of_ownerHere? found
    rw [split, ← List.cons_append]
    refine spells_append_quote.mpr (.inr ?_)
    rcases List.mem_cons.mp mem with rfl | later
    · exact .inl (starts.append_right rest)
    · exact .inr ((ih later).append_left numbers)
  | case3 c s none_here ih => exact (ih mem).append_left [c]

/-! ## Names -/

/-- **A name is passed over whole** if no quote inside it has the numbers of an owner behind it. -/
theorem ownerTexts_named (numbers : numbers? rest = some (pid, tail)) (unspelled : ∀ digits, ¬ Spells digits name) :
    ownerTexts ('"' :: (name ++ '"' :: rest)) = pid :: ownerTexts tail := by
  -- by the quotes inside the name: each one closes a text behind which the numbers do not stand, and opens the next
  induction name using Text.byMark '"' with
  | unmarked name no_quote => exact ownerTexts_of_owner ((ownerHere?_quoted no_quote rest).trans numbers)
  | marked before after no_quote ih =>
    have none_here : ownerHere? ('"' :: (before ++ '"' :: (after ++ '"' :: rest))) = none := by
      rw [ownerHere?_quoted no_quote]
      cases found : numbers? (after ++ '"' :: rest) with
      | none => rfl
      | some parts =>
        have starts := startsNumbers_of_append_quote (startsNumbers_of_numbers? found)
        exact absurd ⟨before, after, rfl, starts⟩ (unspelled parts.1)
    rw [List.append_assoc, List.cons_append, ownerTexts_of_none none_here, ownerTexts_append_of_no_quote no_quote]
    refine ih fun digits spells => unspelled digits ?_
    rw [List.append_cons]
    exact spells.append_left (before ++ ['"'])

/-- A name that spells an id hands it to the search: the first number found is one that the name spells. -/
theorem exists_ownerTexts_of_spells {digits : Text} (spelled : Spells digits name) (rest : Text) :
    ∃ first more, Spells first name ∧ ownerTexts ('"' :: (name ++ '"' :: rest)) = first :: more := by
  induction name using Text.byMark '"' with
  | unmarked name no_quote =>
    obtain ⟨before, after, rfl, -⟩ := spelled
    exact absurd (List.mem_append_right before List.mem_cons_self) no_quote
  | marked before after no_quote ih =>
    rw [List.append_assoc, List.cons_append]
    have here := ownerHere?_quoted no_quote (after ++ '"' :: rest)
    cases found : numbers? (after ++ '"' :: rest) with
    | some parts =>
      have starts := startsNumbers_of_append_quote (startsNumbers_of_numbers? found)
      exact ⟨parts.1, _, ⟨before, after, rfl, starts⟩, ownerTexts_of_owner (here.trans found)⟩
    | none =>
      rw [ownerTexts_of_none (here.trans found), ownerTexts_append_of_no_quote no_quote]
      have spelled_later : Spells digits after := by
        rcases spells_append_quote.mp spelled with earlier | starts | later
        · exact absurd earlier (not_spells_of_no_quote no_quote)
        · obtain ⟨_, starts⟩ := exists_numbers?_of_startsNumbers (starts.append_right ('"' :: rest))
          cases found.symm.trans starts
        · exact later
      obtain ⟨first, more, spells, found⟩ := ih spelled_later
      refine ⟨first, more, spells_append_quote.mpr (.inr (.inr spells)), found⟩

end Listing

end PortRelease
