import PortRelease.Proofs.Listing.Squeezed
import PortRelease.Proofs.Port.Address
/-!
# A listing of sockets, printed and read

A row of the listing is five words and the column of its owners, printed with any blanks between them and with either
line ending. A name is printed as it is: no character of it is escaped.

* `listeners_of_printed`: what is read from a printed listing are the owners of the port's rows, as long as no name
  has a quote in it. Blanks, commas, parentheses and `pid=` in a name shift nothing.

A quote matters only where the numbers of an owner stand behind it, and only in the rows of the port
(`Printed.pids_of_unspelled`). What happens there is the matter of `Proofs.Listing.Names`.
-/

namespace PortRelease.Listing

/-! ## Rows as they are printed -/

/-- A word: some characters, and no blank among them. -/
structure Word where
  text : Text
  ne_nil : text ≠ []
  solid : Text.Solid text
  deriving DecidableEq

/-- What stands between two columns: some blanks, and no line feed among them. -/
structure Gap where
  text : Text
  ne_nil : text ≠ []
  blank : Text.Blank text
  no_feed : '\n' ∉ text
  deriving DecidableEq

/-- A process that holds a socket, by its name, its id and the number of the descriptor it holds it with. -/
structure Owner where
  name : Text
  no_feed : '\n' ∉ name
  pid : Nat
  pid_lt : pid < Numeral.limit32
  descriptor : Nat
  deriving DecidableEq

namespace Owner

/-- What is printed behind the name. -/
def numbers (owner : Owner) : Text :=
  ",pid=".toList ++ (Numeral.render owner.pid ++ (",fd=".toList ++ Numeral.render owner.descriptor))

/-- An owner as it is printed, in parentheses. -/
def text (owner : Owner) : Text :=
  ['('] ++ '"' :: (owner.name ++ '"' :: (owner.numbers ++ [')']))

end Owner

/-- What the column of the owners starts with. -/
def usersMark : Text := "users:(".toList

/-- The column of the owners. -/
def usersColumn (shown : List Owner) : Text :=
  usersMark ++ (Text.join [','] (shown.map Owner.text) ++ [')'])

/-- A row: the state of a socket, two queue lengths, the local address, the peer, and the owners. -/
structure SocketRow where
  state : Word
  received : Word
  sent : Word
  host : Text
  host_solid : Text.Solid host
  is_host : SocketAddress.IsHost host
  port : Port
  peer : Word
  owners : List Owner
  deriving DecidableEq

/-- How a row is set: the blanks between its columns. -/
structure Layout where
  afterState : Gap
  afterReceived : Gap
  afterSent : Gap
  afterHere : Gap
  afterPeer : Gap

namespace SocketRow

/-- The local address. -/
def here (row : SocketRow) : Text := row.host ++ ':' :: Numeral.render row.port.number

/-- The peer and the owners. A row without owners has no column for them, and no blanks before it. -/
def remote (row : SocketRow) (gap : Gap) : Text :=
  if row.owners = [] then row.peer.text else row.peer.text ++ gap.text ++ usersColumn row.owners

/-- The row as a line. -/
def line (row : SocketRow) (layout : Layout) : Text :=
  row.state.text ++ layout.afterState.text ++ (row.received.text ++ layout.afterReceived.text ++
    (row.sent.text ++ layout.afterSent.text ++ (row.here ++ layout.afterHere.text ++ row.remote layout.afterPeer)))

/-- The row is the row of a socket that listens on a port. -/
def Listens (port : Port) (row : SocketRow) : Prop := row.state.text = "LISTEN".toList ∧ row.port = port

instance (port : Port) : DecidablePred (Listens port) := fun row =>
  inferInstanceAs (Decidable (row.state.text = "LISTEN".toList ∧ row.port = port))

end SocketRow

/-- One space between two columns. -/
def Layout.spaced : Layout :=
  let space : Gap := ⟨[' '], by decide, by decide, by decide⟩
  ⟨space, space, space, space, space⟩

/-- The row of a socket that listens on every interface. -/
def SocketRow.listening (port : Port) (owners : List Owner) : SocketRow where
  state := ⟨"LISTEN".toList, by decide, by decide⟩
  received := ⟨['0'], by decide, by decide⟩
  sent := ⟨"128".toList, by decide, by decide⟩
  host := "0.0.0.0".toList
  host_solid := by decide
  is_host := .inl (by decide)
  port := port
  peer := ⟨"0.0.0.0:*".toList, by decide, by decide⟩
  owners := owners

/-- A text lists rows: each on a line of its own, in any layout and with either ending; the last line need not end. -/
inductive Printed : List SocketRow → Text → Prop
  | nil : Printed [] []
  | last (row : SocketRow) (layout : Layout) : Printed [row] (row.line layout)
  | cons (row : SocketRow) (layout : Layout) (ending : Text.LineEnding) {rows : List SocketRow} {text : Text}
    (rest : Printed rows text) : Printed (row :: rows) (row.line layout ++ (ending.text ++ text))

/-- The rows of a port, in order. -/
def rowsOf (port : Port) (rows : List SocketRow) : List SocketRow := rows.filter fun row => row.Listens port

/-- The ids of the owners in the rows of a port, in order. -/
def ownerIds (port : Port) (rows : List SocketRow) : List Nat :=
  (rowsOf port rows).flatMap fun row => row.owners.map Owner.pid

/-- No name in the rows of a port has the numbers of an owner behind a quote inside it. -/
def Unspelled (port : Port) (rows : List SocketRow) : Prop :=
  ∀ row ∈ rowsOf port rows, ∀ owner ∈ row.owners, ∀ digits, ¬ Spells digits owner.name

/-! ## Owners -/

theorem isDecimalDigit_of_mem_render {c : Char} {n : Nat} (mem : c ∈ Numeral.render n) : isDecimalDigit c = true :=
  isDecimalDigit_of_isDigit (Numeral.isDigit_of_mem_render mem)

/-- An owner in a column, by its parts. -/
theorem Owner.text_append (owner : Owner) (rest : Text) :
    owner.text ++ rest = ['('] ++ '"' :: (owner.name ++ '"' :: (owner.numbers ++ ')' :: rest)) := by
  simp only [Owner.text, List.append_assoc, List.cons_append, List.nil_append]

theorem Owner.numbers?_numbers (owner : Owner) (rest : Text) :
    numbers? (owner.numbers ++ ')' :: rest) = some (Numeral.render owner.pid, ')' :: rest) := by
  have ends : EndsDigits (')' :: rest) := by
    rintro c ⟨⟩
    decide
  have some_digit (n : Nat) : Numeral.render n ≠ [] := Nat.toDigits_ne_nil
  have digits (n : Nat) : ∀ c ∈ Numeral.render n, isDecimalDigit c = true := fun _ => isDecimalDigit_of_mem_render
  rw [← numbers?_append (some_digit owner.pid) (digits owner.pid) (some_digit owner.descriptor)
    (digits owner.descriptor) ends]
  unfold Owner.numbers
  simp only [List.append_assoc]

/-- An owner is recognised, if its name does not spell another. -/
theorem ownerTexts_owner (owner : Owner) (unspelled : ∀ digits, ¬ Spells digits owner.name) (rest : Text) :
    ownerTexts (owner.text ++ rest) = Numeral.render owner.pid :: ownerTexts rest := by
  have closed : ownerTexts (')' :: rest) = ownerTexts rest := ownerTexts_of_none (ownerHere?_of_ne (by decide) rest)
  rw [owner.text_append, ownerTexts_append_of_no_quote (by decide),
    ownerTexts_named (owner.numbers?_numbers rest) unspelled, closed]

/-- Owners in a column stand one behind another, with no quote between them. -/
theorem joined_cons (owner : Owner) (more : List Owner) (rest : Text) : ∃ separator, '"' ∉ separator ∧
    Text.join [','] ((owner :: more).map Owner.text) ++ rest =
      owner.text ++ (separator ++ (Text.join [','] (more.map Owner.text) ++ rest)) := by
  cases more with
  | nil => exact ⟨[], List.not_mem_nil, rfl⟩
  | cons next more =>
    have parted : Text.join [','] ((owner :: next :: more).map Owner.text) =
        owner.text ++ [','] ++ Text.join [','] ((next :: more).map Owner.text) :=
      Text.join_word _ _ (List.cons_ne_nil _ _)
    exact ⟨[','], by decide, by rw [parted, List.append_assoc, List.append_assoc]⟩

theorem ownerTexts_joined {shown : List Owner} (unspelled : ∀ owner ∈ shown, ∀ digits, ¬ Spells digits owner.name)
    (rest : Text) : ownerTexts (Text.join [','] (shown.map Owner.text) ++ rest) =
      shown.map (fun owner => Numeral.render owner.pid) ++ ownerTexts rest := by
  induction shown with
  | nil => rfl
  | cons owner more ih =>
    have later := ih fun other mem => unspelled other (List.mem_cons_of_mem owner mem)
    obtain ⟨separator, no_quote, parted⟩ := joined_cons owner more rest
    rw [parted, ownerTexts_owner owner (unspelled owner List.mem_cons_self),
      ownerTexts_append_of_no_quote no_quote, later]
    rfl

/-- **The ids that are read from a column are those of its owners**, in order. -/
theorem owners_usersColumn {shown : List Owner} (unspelled : ∀ owner ∈ shown, ∀ digits, ¬ Spells digits owner.name) :
    owners (usersColumn shown) = shown.map Owner.pid := by
  have texts : ownerTexts (usersColumn shown) = shown.map fun owner => Numeral.render owner.pid := by
    rw [usersColumn, ownerTexts_append_of_no_quote (by decide), ownerTexts_joined unspelled,
      ownerTexts_of_no_quote (by decide), List.append_nil]
  have read : (Numeral.readBelow? Numeral.limit32 ∘ fun owner : Owner => Numeral.render owner.pid) = some ∘ Owner.pid :=
    funext fun owner => Numeral.readBelow?_render owner.pid_lt
  rw [owners, texts, List.filterMap_map, read, List.filterMap_eq_map]

/-! ## Lines -/

namespace SocketRow

variable (row : SocketRow) (layout : Layout)

theorem here_ne_nil : row.here ≠ [] := List.append_ne_nil_of_right_ne_nil _ (List.cons_ne_nil _ _)

theorem here_solid : Text.Solid row.here := by
  refine List.forall_mem_append.mpr ⟨row.host_solid, List.forall_mem_cons.mpr ⟨by decide, fun c mem => ?_⟩⟩
  exact not_isBlank_of_isDigit (Numeral.isDigit_of_mem_render mem)

/-- The words behind the peer. -/
def users : List Text := if row.owners = [] then [] else (usersColumn row.owners).words

theorem words_remote (gap : Gap) : (row.remote gap).words = row.peer.text :: row.users := by
  unfold remote users
  split
  · exact Text.words_of_solid row.peer.ne_nil row.peer.solid
  · exact Text.words_word_gap row.peer.ne_nil row.peer.solid gap.ne_nil gap.blank _

theorem words_line : (row.line layout).words =
    row.state.text :: row.received.text :: row.sent.text :: row.here :: row.peer.text :: row.users := by
  unfold line
  rw [Text.words_word_gap row.state.ne_nil row.state.solid layout.afterState.ne_nil layout.afterState.blank,
    Text.words_word_gap row.received.ne_nil row.received.solid layout.afterReceived.ne_nil layout.afterReceived.blank,
    Text.words_word_gap row.sent.ne_nil row.sent.solid layout.afterSent.ne_nil layout.afterSent.blank,
    Text.words_word_gap row.here_ne_nil row.here_solid layout.afterHere.ne_nil layout.afterHere.blank, words_remote]

theorem owners_users : Listing.owners (Text.join [' '] row.users) = Listing.owners (usersColumn row.owners) := by
  unfold users
  split
  next none_shown =>
    have nobody : ownerTexts [] = [] := ownerTexts_of_no_quote List.not_mem_nil
    have none_read : Listing.owners (usersColumn []) = [] := owners_usersColumn nofun
    rw [none_shown, none_read, Text.join, Listing.owners, nobody]
    rfl
  next => rw [Listing.owners, ownerTexts_join_words, Listing.owners]

/-- The ids that are read from the column of a row. -/
def shown : List Nat := Listing.owners (usersColumn row.owners)

theorem shown_of_unspelled {row : SocketRow} (unspelled : ∀ owner ∈ row.owners, ∀ digits, ¬ Spells digits owner.name) :
    row.shown = row.owners.map Owner.pid :=
  owners_usersColumn unspelled

/-- **What is read from a row**: the ids in its column, if it listens on the port. -/
theorem socketOwners?_line (port : Port) :
    socketOwners? port (row.line layout) = if row.Listens port then some row.shown else none := by
  have address : SocketAddress.hasPort port row.here = decide (row.port = port) :=
    SocketAddress.hasPort_written row.is_host row.port port
  rw [socketOwners?, words_line]
  simp only [address, decide_eq_true_eq, owners_users]
  rfl

/-! ### Where a row ends -/

theorem no_feed_usersColumn (shown : List Owner) : '\n' ∉ usersColumn shown := by
  have no_feed_text : ∀ part ∈ shown.map Owner.text, '\n' ∉ part := by
    intro part mem
    obtain ⟨owner, -, rfl⟩ := List.mem_map.mp mem
    have no_digit (n : Nat) : '\n' ∉ Numeral.render n := Numeral.not_mem_render (by decide) n
    unfold Owner.text Owner.numbers
    simp only [List.mem_append, List.mem_cons, not_or]
    exact ⟨by decide, by decide, owner.no_feed, by decide, ⟨by decide, no_digit _, by decide, no_digit _⟩, by decide⟩
  simp only [usersColumn, List.mem_append, not_or]
  exact ⟨by decide, Text.not_mem_join (by decide) no_feed_text, by decide⟩

theorem no_feed_line : '\n' ∉ row.line layout := by
  have no_feed_word {s : Text} (solid : Text.Solid s) : '\n' ∉ s := solid.not_mem (by decide)
  have no_feed_remote : '\n' ∉ row.remote layout.afterPeer := by
    unfold remote
    split
    · exact no_feed_word row.peer.solid
    · simp only [List.mem_append, not_or]
      exact ⟨⟨no_feed_word row.peer.solid, layout.afterPeer.no_feed⟩, no_feed_usersColumn row.owners⟩
  simp only [line, List.mem_append, not_or]
  exact ⟨⟨no_feed_word row.state.solid, layout.afterState.no_feed⟩,
    ⟨no_feed_word row.received.solid, layout.afterReceived.no_feed⟩,
    ⟨no_feed_word row.sent.solid, layout.afterSent.no_feed⟩,
    ⟨no_feed_word row.here_solid, layout.afterHere.no_feed⟩, no_feed_remote⟩

theorem line_ne_nil : row.line layout ≠ [] := by
  unfold line
  rw [List.append_assoc]
  exact List.append_ne_nil_of_left_ne_nil row.state.ne_nil _

theorem ends_in_word : ∃ word, word <:+ row.line layout ∧ word ≠ [] ∧ Text.Solid word := by
  have of_remote {word : Text} (ends : word <:+ row.remote layout.afterPeer) : word <:+ row.line layout :=
    List.suffix_append_of_suffix (List.suffix_append_of_suffix (List.suffix_append_of_suffix
      (List.suffix_append_of_suffix ends)))
  by_cases none_shown : row.owners = []
  · refine ⟨row.peer.text, of_remote ?_, row.peer.ne_nil, row.peer.solid⟩
    simp only [remote, if_pos none_shown, List.suffix_rfl]
  · refine ⟨[')'], of_remote ?_, List.cons_ne_nil _ _, List.forall_mem_singleton.mpr (by decide)⟩
    rw [remote, if_neg none_shown, usersColumn]
    exact List.suffix_append_of_suffix (List.suffix_append_of_suffix (List.suffix_append _ _))

/-- A row ends in a word, so no carriage return of its own stands before its ending. -/
theorem no_return_line : (row.line layout).getLast? ≠ some '\r' := by
  -- a carriage return at the end of a line would be taken for a part of a bare line feed behind it
  obtain ⟨word, ⟨front, ends⟩, some_char, solid⟩ := row.ends_in_word layout
  rw [← ends, List.getLast?_append, List.getLast?_eq_some_getLast some_char]
  intro last
  obtain is_return : word.getLast some_char = '\r' := Option.some.inj last
  exact solid.not_mem (by decide) (is_return ▸ List.getLast_mem some_char)

end SocketRow

/-! ## Listings -/

variable {rows : List SocketRow} {text : Text} {port : Port}

theorem filterMap_socketOwners?_cons (row : SocketRow) (layout : Layout) {lines : List Text}
    (rest : lines.filterMap (socketOwners? port) = (rowsOf port rows).map SocketRow.shown) :
    (row.line layout :: lines).filterMap (socketOwners? port) = (rowsOf port (row :: rows)).map SocketRow.shown := by
  rw [List.filterMap_cons, row.socketOwners?_line, rest]
  by_cases listens : row.Listens port
  · have kept : rowsOf port (row :: rows) = row :: rowsOf port rows :=
      List.filter_cons_of_pos (decide_eq_true listens)
    rw [if_pos listens, kept, List.map_cons]
  · have dropped : rowsOf port (row :: rows) = rowsOf port rows :=
      List.filter_cons_of_neg (by rw [decide_eq_false listens]; exact Bool.false_ne_true)
    rw [if_neg listens, dropped]

/-- The parser reads the rows of the port, each by its column. -/
theorem Printed.filterMap_socketOwners? (printed : Printed rows text) (port : Port) :
    text.lines.filterMap (socketOwners? port) = (rowsOf port rows).map SocketRow.shown := by
  induction printed with
  | nil => rfl
  | last row layout =>
    rw [Text.lines_of_no_feed (row.line_ne_nil layout) (row.no_feed_line layout)]
    exact filterMap_socketOwners?_cons row layout rfl
  | cons row layout ending rest ih =>
    rw [Text.lines_append_ending ending (row.no_feed_line layout) (row.no_return_line layout)]
    exact filterMap_socketOwners?_cons row layout ih

theorem Printed.pids_eq (printed : Printed rows text) (port : Port) :
    (listeners port text).pids = ((rowsOf port rows).flatMap SocketRow.shown).eraseDups := by
  rw [listeners, printed.filterMap_socketOwners? port, List.flatMap_def]

theorem Printed.pids_of_unspelled (printed : Printed rows text) (unspelled : Unspelled port rows) :
    (listeners port text).pids = (ownerIds port rows).eraseDups := by
  have shown_eq : ∀ row ∈ rowsOf port rows, row.shown = row.owners.map Owner.pid :=
    fun row of_port => SocketRow.shown_of_unspelled (unspelled row of_port)
  rw [printed.pids_eq port, ownerIds, List.flatMap_def, List.flatMap_def, List.map_congr_left shown_eq]

theorem Printed.ownerHidden_eq (printed : Printed rows text) (port : Port) :
    (listeners port text).ownerHidden = (rowsOf port rows).any fun row => row.shown.isEmpty := by
  rw [listeners, printed.filterMap_socketOwners? port, List.any_map]
  rfl

/-- **A printed listing reads back.** If no name has a quote in it, the owners that are read for a port are those of
the port's rows, each once and in order of first appearance; and an owner is hidden just if one of these rows has
none. -/
theorem listeners_of_printed (port : Port) (rows : List SocketRow) (text : Text) (printed : Printed rows text)
    (unquoted : ∀ row ∈ rows, ∀ owner ∈ row.owners, '"' ∉ owner.name) :
    (listeners port text).pids = (ownerIds port rows).eraseDups ∧
    ((listeners port text).ownerHidden = true ↔ ∃ row ∈ rowsOf port rows, row.owners = []) := by
  have unspelled : Unspelled port rows := by
    intro row mem owner holds digits
    have listed : row ∈ rows := (List.mem_filter.mp mem).1
    exact not_spells_of_no_quote (unquoted row listed owner holds)
  refine ⟨printed.pids_of_unspelled unspelled, ?_⟩
  rw [printed.ownerHidden_eq port, List.any_eq_true]
  constructor
  · rintro ⟨row, mem, none_shown⟩
    rw [SocketRow.shown_of_unspelled (unspelled row mem), List.isEmpty_iff] at none_shown
    exact ⟨row, mem, List.map_eq_nil_iff.mp none_shown⟩
  · rintro ⟨row, mem, nobody⟩
    refine ⟨row, mem, ?_⟩
    rw [SocketRow.shown_of_unspelled (unspelled row mem), nobody]
    rfl

/-- Names with blanks, commas, parentheses and `pid=` in them, beside a row that hides its owner and a row of another
port. -/
theorem listeners_of_odd_names :
    let port : Port := ⟨8080, by decide⟩
    let server : Owner := ⟨"my  server, pid=1".toList, by decide, 77, by decide, 4⟩
    let worker : Owner := ⟨"a),(b,fd=2".toList, by decide, 90, by decide, 5⟩
    let rows := [SocketRow.listening port [server, worker], SocketRow.listening ⟨22, by decide⟩ [worker],
      SocketRow.listening port [server], SocketRow.listening port []]
    ∃ text, Printed rows text ∧ (∀ row ∈ rows, ∀ owner ∈ row.owners, '"' ∉ owner.name) ∧
      (listeners port text).pids = [77, 90] ∧ (listeners port text).ownerHidden = true := by
  intro port server worker rows
  have printed : Printed rows _ :=
    .cons _ .spaced .lineFeed (.cons _ .spaced .lineFeed (.cons _ .spaced .returnLineFeed (.last _ .spaced)))
  have unquoted : ∀ row ∈ rows, ∀ owner ∈ row.owners, '"' ∉ owner.name := by decide
  obtain ⟨pids, hidden⟩ := listeners_of_printed port rows _ printed unquoted
  refine ⟨_, printed, unquoted, pids.trans (by decide), hidden.mpr ⟨SocketRow.listening port [], by decide, rfl⟩⟩

end PortRelease.Listing
