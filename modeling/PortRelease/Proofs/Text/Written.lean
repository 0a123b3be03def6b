import PortRelease.Text.DecimalDigit
import PortRelease.Text.Numeral
/-!
# Written lines and words

How a text that was put together of lines, words and blanks is taken apart again. A line that holds no line feed
comes back whole under either ending, as long as a carriage return of its own does not stand right before a bare line
feed. A word comes back from between any runs of blanks, and a text that has words is taken apart at the first of them
(`words_eq_cons_iff`).

Whoever reads a line and does not heed a carriage return at its end (`LineReader`) reads the lines of a text as they were
written (`Lined.filterMap_lines`). Every text is written in lines, those between its line feeds (`lined_rows`).

Blanks and decimal digits are different characters (`not_isDecimalDigit_of_isBlank`), so a number is a word.
-/

namespace PortRelease

/-! ## Blanks and digits -/

/-- No row of digits meets a range of blanks. -/
theorem blankRanges_apart_digitZeros : ∀ range ∈ blankRanges, ∀ start ∈ digitZeros,
    range.2 < start ∨ start + 10 ≤ range.1 := by decide

theorem not_isDecimalDigit_of_isBlank {c : Char} (blank : isBlank c = true) : isDecimalDigit c = false := by
  refine Bool.eq_false_iff.mpr fun digit => ?_
  obtain ⟨range, is_range, within⟩ := List.any_eq_true.mp blank
  obtain ⟨start, is_zero, in_row⟩ := List.any_eq_true.mp digit
  have apart := blankRanges_apart_digitZeros range is_range start is_zero
  simp only [Bool.and_eq_true, decide_eq_true_eq] at within in_row
  omega

theorem not_isBlank_of_isDigit {c : Char} (digit : c.isDigit = true) : isBlank c = false := by
  refine Bool.eq_false_iff.mpr fun blank => ?_
  have decimal := isDecimalDigit_of_isDigit digit
  rw [not_isDecimalDigit_of_isBlank blank] at decimal
  cases decimal

namespace Text

/-- A text without blanks. -/
def Solid (s : Text) : Prop := ∀ c ∈ s, isBlank c = false

/-- A text of blanks only. -/
def Blank (s : Text) : Prop := ∀ c ∈ s, isBlank c = true

instance (s : Text) : Decidable (Solid s) := List.decidableBAll _ s

instance (s : Text) : Decidable (Blank s) := List.decidableBAll _ s

variable {s gap word line rest : Text}

theorem Solid.not_mem {c : Char} (solid : Solid s) (blank : isBlank c = true) : c ∉ s := by
  intro mem
  rw [solid c mem] at blank
  cases blank

/-! ## Words -/

theorem words_cons_of_isBlank {c : Char} (blank : isBlank c = true) (s : Text) : words (c :: s) = words s :=
  words_append blank [] s

theorem words_append_of_blank (blank : Blank gap) (s : Text) : words (gap ++ s) = words s := by
  induction gap with
  | nil => rfl
  | cons c gap ih =>
    rw [List.cons_append, words_cons_of_isBlank (blank c List.mem_cons_self)]
    exact ih fun d mem => blank d (List.mem_cons_of_mem c mem)

/-- A run of blanks ends a word, however long it is. -/
theorem words_append_gap (some_gap : gap ≠ []) (blank : Blank gap) (s rest : Text) :
    words (s ++ gap ++ rest) = words s ++ words rest := by
  obtain ⟨c, more, rfl⟩ := List.exists_cons_of_ne_nil some_gap
  rw [List.append_assoc, List.cons_append, words_append (blank c List.mem_cons_self),
    words_append_of_blank fun d mem => blank d (List.mem_cons_of_mem c mem)]

theorem words_append_blank (blank : Blank gap) (s : Text) : words (s ++ gap) = words s := by
  cases gap with
  | nil => rw [List.append_nil]
  | cons c gap =>
    have nothing : words (c :: gap) = [] := by
      rw [← List.append_nil (c :: gap), words_append_of_blank blank]
      rfl
    rw [words_append (blank c List.mem_cons_self), ← words_cons_of_isBlank (blank c List.mem_cons_self) gap, nothing,
      List.append_nil]

theorem pieces_of_solid (solid : Solid s) : pieces isBlank s = [s] := by
  induction s with
  | nil => rfl
  | cons c s ih =>
    rw [pieces, ih fun d mem => solid d (List.mem_cons_of_mem c mem), solid c List.mem_cons_self]
    rfl

theorem words_of_solid (some_char : word ≠ []) (solid : Solid word) : words word = [word] := by
  rw [words, pieces_of_solid solid]
  exact List.filter_cons_of_pos (by rw [List.isEmpty_eq_false_iff.mpr some_char]; rfl)

theorem words_word_gap (some_char : word ≠ []) (solid : Solid word) (some_gap : gap ≠ []) (blank : Blank gap)
    (rest : Text) : words (word ++ gap ++ rest) = word :: words rest := by
  rw [words_append_gap some_gap blank, words_of_solid some_char solid]
  rfl

/-- A text starts with a blank, if with anything. -/
def StartsBlank (s : Text) : Prop := ∀ c ∈ s.head?, isBlank c = true

theorem startsBlank_cons {b : Char} (blank : isBlank b = true) (s : Text) : StartsBlank (b :: s) := by
  rintro c ⟨⟩
  exact blank

theorem words_word (some_char : word ≠ []) (solid : Solid word) (starts : StartsBlank rest) :
    words (word ++ rest) = word :: words rest := by
  cases rest with
  | nil => rw [List.append_nil, words_of_solid some_char solid]; rfl
  | cons b rest =>
    have blank : isBlank b = true := starts b rfl
    rw [words_append blank, words_of_solid some_char solid, words_cons_of_isBlank blank]
    rfl

/-- Behind its blanks a text with words starts with the first of them. -/
theorem exists_first_word (some_word : words s ≠ []) : ∃ front word rest,
    s = front ++ (word ++ rest) ∧ Blank front ∧ word ≠ [] ∧ Solid word ∧ StartsBlank rest := by
  have parted : s.takeWhile isBlank ++ s.dropWhile isBlank = s := List.takeWhile_append_dropWhile
  have blank : Blank (s.takeWhile isBlank) := List.all_eq_true.mp List.all_takeWhile
  have head := List.head?_dropWhile_not isBlank s
  cases left : s.dropWhile isBlank with
  | nil =>
    rw [← parted, left, words_append_of_blank blank] at some_word
    exact absurd rfl some_word
  | cons c t =>
    rw [left] at head
    refine ⟨_, c :: t.takeWhile (!isBlank ·), t.dropWhile (!isBlank ·), ?_, blank, List.cons_ne_nil _ _, ?_, ?_⟩
    · rw [List.cons_append, List.takeWhile_append_dropWhile, ← left, parted]
    · refine List.forall_mem_cons.mpr ⟨head, fun d mem => ?_⟩
      exact (Bool.not_eq_true' _).mp (List.all_eq_true.mp List.all_takeWhile d mem)
    · intro d first
      have ended := List.head?_dropWhile_not (!isBlank ·) t
      rw [Option.mem_def.mp first] at ended
      exact (Bool.not_eq_false' _).mp ended

/-- **The first word of a text** stands behind its blanks, if it has any in front, and ends with the text or at a blank. -/
theorem words_eq_cons_iff {more : List Text} : words s = word :: more ↔ ∃ front rest,
    s = front ++ (word ++ rest) ∧ Blank front ∧ word ≠ [] ∧ Solid word ∧ StartsBlank rest ∧ words rest = more := by
  constructor
  · intro split
    obtain ⟨front, first, rest, rfl, blank, some_char, solid, starts⟩ :=
      exists_first_word (split ▸ List.cons_ne_nil word more)
    rw [words_append_of_blank blank, words_word some_char solid starts] at split
    obtain ⟨rfl, rfl⟩ := List.cons.inj split
    exact ⟨front, rest, rfl, blank, some_char, solid, starts, rfl⟩
  · rintro ⟨front, rest, rfl, blank, some_char, solid, starts, rfl⟩
    rw [words_append_of_blank blank, words_word some_char solid starts]

/-- A character that is no blank belongs to the word that follows it at once. -/
theorem words_cons_cons {c d : Char} (solid : isBlank c = false) (solid' : isBlank d = false) (s : Text) :
    ∃ word more, words (d :: s) = word :: more ∧ words (c :: d :: s) = (c :: word) :: more := by
  obtain ⟨piece, more, split⟩ := List.exists_cons_of_ne_nil (pieces_ne_nil isBlank s)
  simp [words, pieces, solid, solid', split]

theorem join_cons_cons (glue : Text) (c : Char) (word : Text) (more : List Text) :
    join glue ((c :: word) :: more) = c :: join glue (word :: more) := by
  cases more with
  | nil => rfl
  | cons next more => rfl

theorem join_word (glue word : Text) {more : List Text} (some_more : more ≠ []) :
    join glue (word :: more) = word ++ glue ++ join glue more := by
  cases more with
  | nil => exact absurd rfl some_more
  | cons next more => rfl

theorem not_mem_join {c : Char} {glue : Text} {parts : List Text} (no_glue : c ∉ glue)
    (absent : ∀ part ∈ parts, c ∉ part) : c ∉ join glue parts := by
  induction parts with
  | nil => exact List.not_mem_nil
  | cons part more ih =>
    have here := absent part List.mem_cons_self
    have later := ih fun other mem => absent other (List.mem_cons_of_mem part mem)
    cases more with
    | nil => exact here
    | cons next more =>
      rw [join_word _ _ (List.cons_ne_nil next more), List.mem_append, List.mem_append]
      simp only [here, no_glue, later, or_self, not_false_eq_true]

/-! ## Trimmed texts -/

theorem trim_append_blank (blank : Blank gap) (s : Text) : trim (s ++ gap) = trim s := by
  have reversed : Blank gap.reverse := fun c mem => blank c (List.mem_reverse.mp mem)
  have nothing : gap.dropWhile isBlank = [] := by
    have dropped : (gap ++ []).dropWhile isBlank = [] := List.dropWhile_append_of_pos blank
    rwa [List.append_nil] at dropped
  unfold trim
  rw [List.dropWhile_append]
  split
  next only_blanks => rw [List.isEmpty_iff.mp only_blanks, nothing]
  next => rw [List.reverse_append, List.dropWhile_append_of_pos reversed]

theorem dropWhile_of_solid (solid : Solid s) (rest : Text) (some_char : s ≠ []) :
    (s ++ rest).dropWhile isBlank = s ++ rest := by
  obtain ⟨c, more, rfl⟩ := List.exists_cons_of_ne_nil some_char
  rw [List.cons_append, List.dropWhile_cons_of_neg]
  rw [solid c List.mem_cons_self]
  exact Bool.false_ne_true

theorem trim_of_solid (solid : Solid s) : trim s = s := by
  by_cases empty : s = []
  · rw [empty]
    rfl
  · have reversed : Solid s.reverse := fun c mem => solid c (List.mem_reverse.mp mem)
    have front : s.dropWhile isBlank = s := by
      have kept := dropWhile_of_solid solid [] empty
      rwa [List.append_nil] at kept
    have back : s.reverse.dropWhile isBlank = s.reverse := by
      have kept := dropWhile_of_solid reversed [] (fun h => empty (List.reverse_eq_nil_iff.mp h))
      rwa [List.append_nil] at kept
    rw [trim, front, back, List.reverse_reverse]

/-- What is trimmed off the end of a text is all blanks. -/
theorem exists_dropWhile_eq_trim (s : Text) : ∃ gap, Blank gap ∧ s.dropWhile isBlank = trim s ++ gap := by
  refine ⟨((s.dropWhile isBlank).reverse.takeWhile isBlank).reverse, fun c mem => ?_, ?_⟩
  · exact List.all_eq_true.mp List.all_takeWhile c (List.mem_reverse.mp mem)
  · rw [trim, ← List.reverse_append, List.takeWhile_append_dropWhile, List.reverse_reverse]

/-- A word stands at the start of a trimmed text just if it does so behind the blanks of the text. -/
theorem prefix_trim_iff (solid : Solid word) : word <+: trim s ↔ word <+: s.dropWhile isBlank := by
  obtain ⟨gap, blank, parted⟩ := exists_dropWhile_eq_trim s
  rw [parted]
  constructor
  · exact fun starts => starts.trans (List.prefix_append _ _)
  · rintro starts
    rcases List.prefix_or_prefix_of_prefix starts (List.prefix_append (trim s) gap) with within | beyond
    · exact within
    · -- a word that reached into the blanks would hold one
      obtain ⟨more, rfl⟩ := beyond
      obtain ⟨rest, cut⟩ := (List.prefix_append_right_inj _).mp starts
      cases more with
      | nil => exact (List.append_nil _).symm ▸ List.prefix_rfl
      | cons c more =>
        have is_blank := blank c (cut ▸ List.mem_append_left rest List.mem_cons_self)
        have no_blank := solid c (List.mem_append_right _ List.mem_cons_self)
        rw [is_blank] at no_blank
        cases no_blank

/-! ## Lines -/

/-- A character that starts no line ending belongs to the line that follows. -/
theorem lines_cons {c : Char} {first : Text} {more : List Text} (no_feed : c ≠ '\n')
    (no_return : c = '\r' → s.head? ≠ some '\n') (split : lines s = first :: more) :
    lines (c :: s) = (c :: first) :: more := by
  rw [lines]
  · rw [split]
  · exact no_feed
  · rintro rest rfl rfl
    exact no_return rfl rfl

/-- What follows a line without a line feed ends it, unless a carriage return is drawn into the ending. -/
theorem lines_append_of_ends {tail : Text} {more : List Text} (no_feed : '\n' ∉ line) (ends : lines tail = [] :: more)
    (apart : line.getLast? = some '\r' → tail.head? ≠ some '\n') : lines (line ++ tail) = line :: more := by
  induction line with
  | nil => exact ends
  | cons c line ih =>
    have later : '\n' ∉ line := List.not_mem_of_not_mem_cons no_feed
    cases line with
    | nil =>
      refine lines_cons (List.ne_of_not_mem_cons no_feed).symm (fun is_return => apart ?_) ends
      rw [is_return]
      rfl
    | cons d line =>
      refine lines_cons (List.ne_of_not_mem_cons no_feed).symm (fun _ head => ?_) (ih later apart)
      exact List.ne_of_not_mem_cons later (Option.some.inj head).symm

/-- What follows the last line feed is a line, unless it is empty. -/
theorem lines_of_no_feed (some_char : line ≠ []) (no_feed : '\n' ∉ line) : lines line = [line] := by
  induction line with
  | nil => exact absurd rfl some_char
  | cons c line ih =>
    have later : '\n' ∉ line := List.not_mem_of_not_mem_cons no_feed
    have here : c ≠ '\n' := (List.ne_of_not_mem_cons no_feed).symm
    cases line with
    | nil =>
      rw [lines, lines]
      · exact here
      · exact fun _ _ => nofun
    | cons d line =>
      refine lines_cons here (fun _ head => ?_) (ih (List.cons_ne_nil d line) later)
      exact List.ne_of_not_mem_cons later (Option.some.inj head).symm

/-- How a line can end. -/
inductive LineEnding where
  | lineFeed
  | returnLineFeed
  deriving DecidableEq

def LineEnding.text : LineEnding → Text
  | lineFeed => ['\n']
  | returnLineFeed => ['\r', '\n']

/-- **A line comes back under either ending.** -/
theorem lines_append_ending (ending : LineEnding) (no_feed : '\n' ∉ line) (no_return : line.getLast? ≠ some '\r')
    (rest : Text) : lines (line ++ (ending.text ++ rest)) = line :: lines rest := by
  refine lines_append_of_ends no_feed ?_ fun is_return => absurd is_return no_return
  cases ending with
  | lineFeed => rfl
  | returnLineFeed => rfl

/-- Only a bare line feed takes something off the line before it: one carriage return. -/
theorem exists_lines_append_ending (ending : LineEnding) (no_feed : '\n' ∉ line) (rest : Text) :
    ∃ read, lines (line ++ (ending.text ++ rest)) = read :: lines rest ∧ (line = read ∨ line = read ++ ['\r']) := by
  by_cases drawn : line.getLast? = some '\r' ∧ ending = .lineFeed
  · obtain ⟨last, rfl⟩ := drawn
    obtain ⟨front, rfl⟩ := List.getLast?_eq_some_iff.mp last
    refine ⟨front, ?_, .inr rfl⟩
    rw [List.append_assoc]
    refine lines_append_of_ends (fun mem => no_feed (List.mem_append_left _ mem)) rfl fun _ => ?_
    show some '\r' ≠ some '\n'
    decide
  · refine ⟨line, ?_, .inl rfl⟩
    cases ending with
    | lineFeed => exact lines_append_ending .lineFeed no_feed (fun last => drawn ⟨last, rfl⟩) rest
    | returnLineFeed =>
      refine lines_append_of_ends no_feed rfl fun _ => ?_
      show some '\r' ≠ some '\n'
      decide

/-- A text has certain lines: each under either ending, but the last need not end. -/
inductive Lined : List Text → Text → Prop
  | nil : Lined [] []
  | last {line : Text} (no_feed : '\n' ∉ line) : Lined [line] line
  | cons {line : Text} (no_feed : '\n' ∉ line) (ending : LineEnding) {more : List Text} {text : Text}
    (rest : Lined more text) : Lined (line :: more) (line ++ (ending.text ++ text))

/-- Lines one behind another, each with an ending. -/
def terminated (ending : LineEnding) (written : List Text) : Text := written.flatMap fun line => line ++ ending.text

theorem lined_terminated (ending : LineEnding) {written : List Text} (no_feed : ∀ line ∈ written, '\n' ∉ line) :
    Lined written (terminated ending written) := by
  induction written with
  | nil => exact .nil
  | cons line more ih =>
    have rest := ih fun other mem => no_feed other (List.mem_cons_of_mem line mem)
    rw [terminated, List.flatMap_cons, List.append_assoc]
    exact .cons (no_feed line List.mem_cons_self) ending rest

/-- **Lines are read as they were written** by whoever does not heed a carriage return at the end of a line. -/
theorem Lined.filterMap_lines {β : Type} {read : Text → Option β} {written : List Text} {text : Text}
    (lined : Lined written text) (unheeded : ∀ line, read (line ++ ['\r']) = read line) (nothing : read [] = none) :
    text.lines.filterMap read = written.filterMap read := by
  induction lined with
  | nil => rfl
  | @last line no_feed =>
    by_cases empty : line = []
    · subst empty
      rw [List.filterMap_cons, nothing]
      rfl
    · rw [lines_of_no_feed empty no_feed]
  | @cons line no_feed ending more text rest ih =>
    obtain ⟨found, split, same⟩ := exists_lines_append_ending ending no_feed text
    have reads : read found = read line := by
      rcases same with rfl | rfl
      · rfl
      · exact (unheeded found).symm
    rw [split, List.filterMap_cons, List.filterMap_cons, reads, ih]

/-! ## Reading lines -/

/-- Something that is read from a line. A carriage return at its end is not heeded, and an empty line gives nothing. -/
structure LineReader {β : Type} (read : Text → Option β) : Prop where
  append_return : ∀ line, read (line ++ ['\r']) = read line
  nothing : read [] = none

/-- The pieces of a text between line feeds. -/
def rows : Text → List Text := pieces (· == '\n')

/-- A text with each line feed replaced by an ending. -/
def relined (ending : LineEnding) (s : Text) : Text := s.flatMap fun c => if c = '\n' then ending.text else [c]

theorem relined_lineFeed (s : Text) : relined .lineFeed s = s := by
  have kept : (fun c => if c = '\n' then LineEnding.lineFeed.text else [c]) = fun c : Char => [c] := by
    funext c
    split
    next feed => rw [feed]; rfl
    next => rfl
  rw [relined, kept, List.flatMap_singleton']

/-- A character that is no line feed belongs to the first line. -/
theorem Lined.cons_char {c : Char} {line : Text} {more : List Text} {text : Text} (no_feed : c ≠ '\n')
    (lined : Lined (line :: more) text) : Lined ((c :: line) :: more) (c :: text) := by
  cases lined with
  | last clear => exact .last (List.not_mem_cons_of_ne_of_not_mem no_feed.symm clear)
  | cons clear ending rest => exact .cons (List.not_mem_cons_of_ne_of_not_mem no_feed.symm clear) ending rest

theorem lined_relined (ending : LineEnding) (s : Text) : Lined (rows s) (relined ending s) := by
  induction s with
  | nil => exact .last List.not_mem_nil
  | cons c s ih =>
    by_cases feed : c = '\n'
    · subst feed
      exact .cons List.not_mem_nil ending ih
    · obtain ⟨line, more, split⟩ := List.exists_cons_of_ne_nil (pieces_ne_nil (· == '\n') s)
      have split_cons : rows (c :: s) = (c :: line) :: more := by
        simp [rows, pieces, split, feed]
      have same : relined ending (c :: s) = c :: relined ending s := by
        simp [relined, feed]
      rw [split_cons, same]
      rw [rows, split] at ih
      exact ih.cons_char feed

theorem lined_rows (s : Text) : Lined (rows s) s := by
  have under_feeds := lined_relined .lineFeed s
  rwa [relined_lineFeed] at under_feeds

namespace LineReader

variable {β : Type} {read : Text → Option β} (reader : LineReader read)

include reader

/-- Only the rows of a text count, not how they end. -/
theorem filterMap_lines_rows (ending : LineEnding) (s : Text) :
    (relined ending s).lines.filterMap read = (rows s).filterMap read :=
  (lined_relined ending s).filterMap_lines reader.append_return reader.nothing

theorem filterMap_lines (s : Text) : s.lines.filterMap read = (rows s).filterMap read :=
  (lined_rows s).filterMap_lines reader.append_return reader.nothing

/-- **What is read from a text is read under any ending.** -/
theorem filterMap_lines_relined (ending : LineEnding) (s : Text) :
    (relined ending s).lines.filterMap read = s.lines.filterMap read :=
  (reader.filterMap_lines_rows ending s).trans (reader.filterMap_lines s).symm

/-- **A line feed between two texts keeps them apart.** -/
theorem filterMap_lines_append (a b : Text) :
    (a ++ '\n' :: b).lines.filterMap read = a.lines.filterMap read ++ b.lines.filterMap read := by
  rw [reader.filterMap_lines, reader.filterMap_lines, reader.filterMap_lines, ← List.filterMap_append, rows,
    pieces_append (by rfl)]

end LineReader

end Text

end PortRelease
