import PortRelease.Proofs.Listing.Printed
/-!
# What a name can do to a lookup

Names are printed as they are, and an owner is recognised by its shape alone. So a name that holds a quote with the
numbers of an owner behind it is read as an owner itself.

* `lookup_of_printed`: who is found is an owner of one of the port's rows or is spelled by a name in it. Without a name
  that spells an owner the first owner is found; a name that spells nothing but processes, first in the first row of
  the port, decides the lookup instead.
* `lookup_redirected_by_name`: such a row, with an owner that is missed and a process that is found in its place.

Most names hold no quote, and then nothing of this happens (`listeners_of_printed`).
-/

namespace PortRelease.Listing

variable {digits : Text} {n : Nat}

/-! ## What a column spells -/

theorem StartsNumbers.unique {digits' s : Text} (starts : StartsNumbers digits s) (starts' : StartsNumbers digits' s) :
    digits = digits' := by
  obtain ⟨rest, read⟩ := exists_numbers?_of_startsNumbers starts
  obtain ⟨rest', read'⟩ := exists_numbers?_of_startsNumbers starts'
  rw [read] at read'
  exact (Prod.mk.inj (Option.some.inj read')).1

theorem Spells.of_append {s rest : Text} (no_quote : '"' ∉ s) (spells : Spells digits (s ++ rest)) :
    Spells digits rest := by
  obtain ⟨before, after, split, starts⟩ := spells
  obtain ⟨between, rfl⟩ := exists_append_of_not_mem no_quote split.symm
  rw [List.append_assoc] at split
  exact ⟨between, after, List.append_cancel_left split, starts⟩

theorem Owner.no_quote_numbers (owner : Owner) : '"' ∉ owner.numbers := by
  have no_digit (n : Nat) : '"' ∉ Numeral.render n := Numeral.not_mem_render (by decide) n
  unfold Owner.numbers
  simp only [List.mem_append, not_or]
  exact ⟨by decide, no_digit _, by decide, no_digit _⟩

/-- Digits that an owner accounts for: those of its id, and those spelled by its name and the quote that opens it. -/
def Owner.AccountsFor (owner : Owner) (digits : Text) : Prop :=
  digits = Numeral.render owner.pid ∨ Spells digits ('"' :: owner.name)

theorem spells_owner {owner : Owner} {rest : Text} (spells : Spells digits (owner.text ++ rest)) :
    owner.AccountsFor digits ∨ Spells digits rest := by
  have own : StartsNumbers (Numeral.render owner.pid) (owner.numbers ++ ')' :: rest) :=
    startsNumbers_of_numbers? (owner.numbers?_numbers rest)
  have no_quote : '"' ∉ owner.numbers ++ [')'] := by
    rw [List.mem_append, not_or]
    exact ⟨owner.no_quote_numbers, by decide⟩
  rw [owner.text_append, ← List.cons_append] at spells
  -- at the closing quote: what is spelled stands in the name, right behind that quote, or behind the owner
  rcases spells_append_quote.mp (spells.of_append (by decide)) with in_name | starts | later
  · exact .inl (.inr in_name)
  · exact .inl (.inl (starts.unique own))
  · rw [List.append_cons] at later
    exact .inr (later.of_append no_quote)

theorem spells_joined {shown : List Owner} {rest : Text}
    (spells : Spells digits (Text.join [','] (shown.map Owner.text) ++ rest)) :
    (∃ owner ∈ shown, owner.AccountsFor digits) ∨ Spells digits rest := by
  induction shown with
  | nil => exact .inr spells
  | cons owner more ih =>
    obtain ⟨separator, no_quote, parted⟩ := joined_cons owner more rest
    rw [parted] at spells
    rcases spells_owner spells with first | later
    · exact .inl ⟨owner, List.mem_cons_self, first⟩
    · rcases ih (later.of_append no_quote) with ⟨other, mem, accounts⟩ | behind
      · exact .inl ⟨other, List.mem_cons_of_mem owner mem, accounts⟩
      · exact .inr behind

/-- **Everything in a column is accounted for** by some owner. -/
theorem spells_usersColumn {shown : List Owner} (spells : Spells digits (usersColumn shown)) :
    ∃ owner ∈ shown, owner.AccountsFor digits := by
  rw [usersColumn] at spells
  rcases spells_joined (spells.of_append (by decide)) with accounted | behind
  · exact accounted
  · exact absurd behind (not_spells_of_no_quote (by decide))

/-- A text spells a number: it spells the digits of one below 2^32. -/
def SpellsNumber (s : Text) (n : Nat) : Prop :=
  ∃ digits, Spells digits s ∧ Numeral.readBelow? Numeral.limit32 digits = some n

theorem SocketRow.mem_shown {row : SocketRow} (mem : n ∈ row.shown) :
    ∃ owner ∈ row.owners, owner.pid = n ∨ SpellsNumber ('"' :: owner.name) n := by
  obtain ⟨digits, found, read⟩ := List.mem_filterMap.mp mem
  obtain ⟨owner, holds, own | in_name⟩ := spells_usersColumn (spells_of_mem_ownerTexts found)
  · rw [own, Numeral.readBelow?_render owner.pid_lt] at read
    exact ⟨owner, holds, .inl (Option.some.inj read)⟩
  · exact ⟨owner, holds, .inr ⟨digits, in_name, read⟩⟩

/-- A name that spells an id, first in the column, is where the first number is found. -/
theorem exists_ownerTexts_usersColumn {owner : Owner} {others : List Owner} (spelled : Spells digits owner.name) :
    ∃ first more, Spells first owner.name ∧ ownerTexts (usersColumn (owner :: others)) = first :: more := by
  obtain ⟨separator, -, parted⟩ := joined_cons owner others [')']
  obtain ⟨first, more, spells, found⟩ := exists_ownerTexts_of_spells spelled
    (owner.numbers ++ ')' :: (separator ++ (Text.join [','] (others.map Owner.text) ++ [')'])))
  refine ⟨first, more, spells, ?_⟩
  rw [usersColumn, ownerTexts_append_of_no_quote (by decide), parted, owner.text_append,
    ownerTexts_append_of_no_quote (by decide), found]

/-! ## Who is found -/

variable {rows : List SocketRow} {text : Text} {port : Port}

theorem Printed.exists_row_of_found (printed : Printed rows text) {binding : Binding}
    (found : (listeners port text).lookup port = .ok (.found binding)) :
    ∃ row ∈ rowsOf port rows, binding.pid.number ∈ row.shown := by
  have mem : binding.pid.number ∈ (listeners port text).pids := mem_pids_of_found found
  rw [printed.pids_eq port, List.mem_eraseDups, List.mem_flatMap] at mem
  exact mem

/-- A process that comes first in the first row of the port is found. -/
theorem Printed.lookup_of_first (printed : Printed rows text) {row : SocketRow} {more : List SocketRow}
    {pid : ProcessId} {others : List Nat} (first_row : rowsOf port rows = row :: more)
    (first : row.shown = pid.number :: others) :
    (listeners port text).lookup port = .ok (.found ⟨port, pid⟩) := by
  have pids : ∃ later, (listeners port text).pids = pid.number :: later := by
    rw [printed.pids_eq port, first_row, List.flatMap_cons, first, List.cons_append, List.eraseDups_cons]
    exact ⟨_, rfl⟩
  obtain ⟨later, pids⟩ := pids
  have found : Lookup.firstOf port (listeners port text).pids = .found ⟨port, pid⟩ :=
    Lookup.firstOf_eq_found_iff.mpr ⟨rfl, [], later, pids, nofun⟩
  rw [Listeners.lookup_of_pids (pids ▸ List.cons_ne_nil _ _), found]

theorem Printed.owned_of_unspelled (printed : Printed rows text) (unspelled : Unspelled port rows) {binding : Binding}
    (found : (listeners port text).lookup port = .ok (.found binding)) :
    binding.pid.number ∈ ownerIds port rows := by
  have mem : binding.pid.number ∈ (listeners port text).pids := mem_pids_of_found found
  rw [printed.pids_of_unspelled unspelled, List.mem_eraseDups] at mem
  exact mem

/-- Without a name that spells an owner, the first owner that a process can be is found. -/
theorem Printed.lookup_of_unspelled (printed : Printed rows text) (unspelled : Unspelled port rows)
    (owned : ownerIds port rows ≠ []) :
    (listeners port text).lookup port = .ok (Lookup.firstOf port (ownerIds port rows).eraseDups) := by
  obtain ⟨n, others, ids⟩ := List.exists_cons_of_ne_nil owned
  have pids := printed.pids_of_unspelled unspelled
  have some_pid : (listeners port text).pids ≠ [] := by
    rw [pids, ids, List.eraseDups_cons]
    exact List.cons_ne_nil _ _
  rw [Listeners.lookup_of_pids some_pid, pids]

/-- **What names can do to a lookup.** Whoever is found is an owner of one of the port's rows, or is a number that
some name in that row spells together with the quote that opens it. As long as no name spells an owner inside, it is
an owner, and the first one that a process can be. But if the first name of the port's first row spells owners, all of
them processes, one of these is found. -/
theorem lookup_of_printed (port : Port) (rows : List SocketRow) (text : Text) (printed : Printed rows text) :
    let answer := (listeners port text).lookup port
    (∀ binding, answer = .ok (.found binding) → ∃ row ∈ rowsOf port rows, ∃ owner ∈ row.owners,
      owner.pid = binding.pid.number ∨ SpellsNumber ('"' :: owner.name) binding.pid.number) ∧
    (Unspelled port rows →
      (∀ binding, answer = .ok (.found binding) → binding.pid.number ∈ ownerIds port rows) ∧
      (ownerIds port rows ≠ [] → answer = .ok (Lookup.firstOf port (ownerIds port rows).eraseDups))) ∧
    (∀ row more owner others, rowsOf port rows = row :: more → row.owners = owner :: others →
      (∃ digits, Spells digits owner.name) →
      (∀ digits, Spells digits owner.name →
        ∃ pid : ProcessId, Numeral.readBelow? Numeral.limit32 digits = some pid.number) →
      ∃ binding, answer = .ok (.found binding) ∧ SpellsNumber owner.name binding.pid.number) := by
  refine ⟨fun binding found => ?_, fun unspelled => ?_, ?_⟩
  · obtain ⟨row, of_port, shown⟩ := printed.exists_row_of_found found
    exact ⟨row, of_port, row.mem_shown shown⟩
  · exact ⟨fun binding found => printed.owned_of_unspelled unspelled found, printed.lookup_of_unspelled unspelled⟩
  · rintro row more owner others first_row first_owner ⟨digits, spelled⟩ processes
    obtain ⟨first, later, spells, texts⟩ := exists_ownerTexts_usersColumn spelled
    obtain ⟨pid, read⟩ := processes first spells
    have shown : row.shown = pid.number :: later.filterMap (Numeral.readBelow? Numeral.limit32) := by
      rw [SocketRow.shown, first_owner, owners, texts, List.filterMap_cons_some read]
    exact ⟨⟨port, pid⟩, printed.lookup_of_first first_row shown, first, spells, read⟩

/-- Beside a name that holds quotes and spells nobody the owner is found; where a name spells a process, that one. -/
theorem lookups_beside_quoted_names :
    let port : Port := ⟨80, by decide⟩
    let other : Port := ⟨81, by decide⟩
    let harmless : Owner := ⟨"run \"a\", pid=1".toList, by decide, 5, by decide, 3⟩
    let spelling : Owner := ⟨"x\",pid=9,fd=3".toList, by decide, 77, by decide, 4⟩
    let rows := [SocketRow.listening port [harmless], SocketRow.listening other [spelling, harmless]]
    ∃ text, Printed rows text ∧
      (∃ binding, (listeners port text).lookup port = .ok (.found binding) ∧
        binding.pid.number ∈ ownerIds port rows) ∧
      ∃ binding, (listeners other text).lookup other = .ok (.found binding) ∧
        SpellsNumber spelling.name binding.pid.number := by
  intro port other harmless spelling rows
  have printed : Printed rows _ := .cons _ .spaced .lineFeed (.last _ .spaced)
  have unspelled : ∀ digits, ¬ Spells digits harmless.name := by
    rintro digits spelled
    obtain ⟨first, more, -, found⟩ := exists_ownerTexts_of_spells spelled []
    have nobody : ownerTexts ('"' :: (harmless.name ++ ['"'])) = [] := by decide +kernel
    cases found.symm.trans nobody
  have spelled : StartsNumbers ['9'] ",pid=9,fd=3".toList :=
    ⟨'3', [], by decide, by decide, List.forall_mem_singleton.mpr (by decide), by decide⟩
  have only : ∀ digits, Spells digits spelling.name → digits = ['9'] := by
    intro digits spells
    rcases spells_append_quote.mp (show Spells digits (['x'] ++ '"' :: ",pid=9,fd=3".toList) from spells) with
      earlier | starts | later
    · exact absurd earlier (not_spells_of_no_quote (by decide))
    · exact starts.unique spelled
    · exact absurd later (not_spells_of_no_quote (by decide))
  refine ⟨_, printed, ?_, ?_⟩
  · have of_port : rowsOf port rows = [SocketRow.listening port [harmless]] := by decide
    have harmless_only : Unspelled port rows := by
      intro row mem owner holds
      rw [of_port] at mem
      obtain rfl := List.mem_singleton.mp mem
      obtain rfl := List.mem_singleton.mp holds
      exact unspelled
    obtain ⟨-, answered, -⟩ := lookup_of_printed port rows _ printed
    obtain ⟨owned, first⟩ := answered harmless_only
    have found := first (by decide)
    exact ⟨_, found, owned _ found⟩
  · obtain ⟨-, -, redirected⟩ := lookup_of_printed other rows _ printed
    have of_port : rowsOf other rows = [SocketRow.listening other [spelling, harmless]] := by decide
    refine redirected _ [] spelling [harmless] of_port rfl ⟨['9'], ['x'], _, rfl, spelled⟩ fun digits spells => ?_
    obtain rfl := only digits spells
    exact ⟨⟨9, by decide, by decide⟩, by decide⟩

/-- **A lookup is redirected by a name.** The owner is missed, and a process is found in its place that holds
nothing. -/
theorem lookup_redirected_by_name :
    let port : Port := ⟨80, by decide⟩
    let owner : Owner := ⟨"\",pid=1,fd=3".toList, by decide, 77, by decide, 4⟩
    let row := SocketRow.listening port [owner]
    let text : Text := "LISTEN 0 128 0.0.0.0:80 0.0.0.0:* users:((\"\",pid=1,fd=3\",pid=77,fd=4))\n".toList
    Printed [row] text ∧ ∃ binding, (listeners port text).lookup port = .ok (.found binding) ∧
      ∀ owner ∈ row.owners, owner.pid ≠ binding.pid.number := by
  intro port owner row text
  have line : row.line .spaced ++ (Text.LineEnding.lineFeed.text ++ []) = text := by decide +kernel
  have read : listeners port text = ⟨[1], false⟩ := by decide +kernel
  refine ⟨line ▸ .cons row .spaced .lineFeed .nil, ⟨port, ⟨1, by decide, by decide⟩⟩, ?_, by decide⟩
  rw [read]
  rfl

end PortRelease.Listing
