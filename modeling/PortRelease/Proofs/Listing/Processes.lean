import PortRelease.Listing.Processes
import PortRelease.Proofs.Text.Numeral
import PortRelease.Proofs.Text.Written
/-!
# A listing of processes, printed and read

A row of the listing is the id of a process and the id of its parent, in any spelling and with any blanks in front of them
and between them; what a tool prints behind them, after a blank, does not count (`ShowsRow`). A line that does not start
with two such numbers shows no row, whatever it is: a title, an empty line, a number that 32 bits cannot hold.

So every text prints a table, that of the rows which its lines show, in order (`PrintsTable`).

* `printsTable_iff`: the table that is read from a text is the one that it prints, and no other.
-/

namespace PortRelease.Listing

variable {row : ProcessRow} {line text : Text} {table : ProcessTable} {lines : List Text}

/-! ## Rows as they are printed -/

/-- **A line shows a row**: its first two words spell the id of a process and the id of its parent. -/
inductive ShowsRow (row : ProcessRow) : Text → Prop
  | intro {front pid gap parent rest : Text} (indented : Text.Blank front) (spells_pid : Numeral.Spelled row.pid pid)
    (pid_lt : row.pid < Numeral.limit32) (some_gap : gap ≠ []) (blank : Text.Blank gap)
    (spells_parent : Numeral.Spelled row.parent parent) (parent_lt : row.parent < Numeral.limit32)
    (apart : Text.StartsBlank rest) : ShowsRow row (front ++ (pid ++ gap ++ (parent ++ rest)))

/-- Lines show the rows of a table, in order, and otherwise nothing. -/
inductive ShowsTable : ProcessTable → List Text → Prop
  | nil : ShowsTable [] []
  | row {row : ProcessRow} {line : Text} {table : ProcessTable} {lines : List Text} (shows : ShowsRow row line)
    (rest : ShowsTable table lines) : ShowsTable (row :: table) (line :: lines)
  | other {line : Text} {table : ProcessTable} {lines : List Text} (no_row : ∀ row, ¬ ShowsRow row line)
    (rest : ShowsTable table lines) : ShowsTable table (line :: lines)

/-- **A text prints a table**: its lines show it. -/
def PrintsTable (table : ProcessTable) (text : Text) : Prop := ∃ lines, Text.Lined lines text ∧ ShowsTable table lines

/-! ## Reading a row -/

theorem solid_of_spelled {n : Nat} {s : Text} (spelled : Numeral.Spelled n s) : Text.Solid s := by
  intro c mem
  refine Bool.eq_false_iff.mpr fun blank => ?_
  have no_digit : c.isDigit = false := Bool.eq_false_iff.mpr fun digit => by
    rw [not_isBlank_of_isDigit digit] at blank
    cases blank
  have no_plus : c ≠ '+' := by
    rintro rfl
    cases blank
  exact spelled.not_mem no_digit no_plus mem

/-- A line shows a row by its first two words. -/
theorem showsRow_iff : ShowsRow row line ↔ ∃ pid parent more, line.words = pid :: parent :: more ∧
    (Numeral.Spelled row.pid pid ∧ row.pid < Numeral.limit32) ∧
      (Numeral.Spelled row.parent parent ∧ row.parent < Numeral.limit32) := by
  constructor
  · intro shows
    cases shows with
    | @intro _ pid _ parent rest indented spells_pid pid_lt some_gap blank spells_parent parent_lt apart =>
      refine ⟨pid, parent, rest.words, ?_, ⟨spells_pid, pid_lt⟩, spells_parent, parent_lt⟩
      rw [Text.words_append_of_blank indented,
        Text.words_word_gap spells_pid.ne_nil (solid_of_spelled spells_pid) some_gap blank,
        Text.words_word spells_parent.ne_nil (solid_of_spelled spells_parent) apart]
  · rintro ⟨pid, parent, more, split, ⟨spells_pid, pid_lt⟩, spells_parent, parent_lt⟩
    obtain ⟨front, behind, rfl, indented, -, -, apart_pid, split⟩ := Text.words_eq_cons_iff.mp split
    obtain ⟨gap, rest, rfl, blank, some_char, solid, apart, -⟩ := Text.words_eq_cons_iff.mp split
    have some_gap : gap ≠ [] := by
      rintro rfl
      obtain ⟨c, more, rfl⟩ := List.exists_cons_of_ne_nil some_char
      have is_blank : isBlank c = true := apart_pid c rfl
      rw [solid c List.mem_cons_self] at is_blank
      cases is_blank
    rw [← List.append_assoc pid]
    exact .intro indented spells_pid pid_lt some_gap blank spells_parent parent_lt apart

/-- **The row that is read from a line is the one that it shows.** -/
theorem processRow?_eq_some_iff : processRow? line = some row ↔ ShowsRow row line := by
  rw [showsRow_iff]
  simp only [← Numeral.readBelow?_eq_some_iff]
  constructor
  · intro reads
    unfold processRow? at reads
    split at reads
    next pid parent more split =>
      obtain ⟨n, reads_pid, reads⟩ := Option.bind_eq_some_iff.mp reads
      obtain ⟨m, reads_parent, same⟩ := Option.bind_eq_some_iff.mp reads
      obtain rfl := Option.some.inj same
      exact ⟨pid, parent, more, split, reads_pid, reads_parent⟩
    next => cases reads
  · rintro ⟨pid, parent, more, split, reads_pid, reads_parent⟩
    rw [processRow?, split]
    simp only [reads_pid, reads_parent]
    rfl

theorem processRow?_eq_none_iff : processRow? line = none ↔ ∀ row, ¬ ShowsRow row line := by
  simp only [Option.eq_none_iff_forall_ne_some, ne_eq, processRow?_eq_some_iff]

theorem lineReader_processRow? : Text.LineReader processRow? where
  append_return line := by
    unfold processRow?
    rw [Text.words_append_blank (by decide)]
  nothing := rfl

/-! ## Reading a table -/

theorem showsTable_iff : ShowsTable table lines ↔ lines.filterMap processRow? = table := by
  constructor
  · intro shows
    induction shows with
    | nil => rfl
    | row shows _ ih => rw [List.filterMap_cons_some (processRow?_eq_some_iff.mpr shows), ih]
    | other no_row _ ih => rw [List.filterMap_cons_none (processRow?_eq_none_iff.mpr no_row), ih]
  · rintro rfl
    induction lines with
    | nil => exact .nil
    | cons line lines ih =>
      cases reads : processRow? line with
      | none =>
        rw [List.filterMap_cons_none reads]
        exact .other (processRow?_eq_none_iff.mp reads) ih
      | some row =>
        rw [List.filterMap_cons_some reads]
        exact .row (processRow?_eq_some_iff.mp reads) ih

/-- **The table that is read from a text is the one that it prints.** -/
theorem printsTable_iff : PrintsTable table text ↔ processTable text = table := by
  have read (lines : List Text) (lined : Text.Lined lines text) : processTable text = lines.filterMap processRow? :=
    lined.filterMap_lines lineReader_processRow?.append_return lineReader_processRow?.nothing
  constructor
  · rintro ⟨lines, lined, shows⟩
    exact (read lines lined).trans (showsTable_iff.mp shows)
  · intro reads
    exact ⟨text.rows, Text.lined_rows text, showsTable_iff.mpr ((read _ (Text.lined_rows text)).symm.trans reads)⟩

/-- A title shows no row, and a row may have more words than two. -/
example : PrintsTable [⟨7, 1⟩, ⟨12, 7⟩] "  PID  PPID\n    7    +01 init\r\n\n12\t7".toList :=
  printsTable_iff.mpr (by decide +kernel)

end PortRelease.Listing
