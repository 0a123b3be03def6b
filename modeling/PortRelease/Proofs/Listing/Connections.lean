import PortRelease.Listing.Connections
import PortRelease.Listing.Pids
import PortRelease.Proofs.Listing.Printed
/-!
# A listing of connections, printed and read

A row of the listing is the word `TCP`, two addresses, a state and the id of the owner, printed with any blanks between
them. The state is a text of one word or more, in whatever language. Between the rows stand lines that are none: titles,
empty lines, rows of other protocols.

**What is read are the rows' owners** (`connectionOwners_of_printed`): of the rows that have the port on their own side
and port 0 on the other, in order, each owner once. A line is no row just because it does not start with `TCP`; nothing
else about it matters.
-/

namespace PortRelease

theorem Port.eq_mk_iff {port : Port} {n : Nat} (h : n < 65536) : port = ⟨n, h⟩ ↔ port.number = n := by
  cases port
  exact Port.mk.injEq .. ▸ Iff.rfl

namespace Listing

/-! ## Rows as they are printed -/

/-- The address of a socket as it is printed. -/
structure PrintedAddress where
  host : Text
  host_solid : Text.Solid host
  is_host : SocketAddress.IsHost host
  port : Port

/-- What may stand at the ends of a line: blanks, if anything, and no line feed among them. -/
structure Margin where
  text : Text
  blank : Text.Blank text
  no_feed : '\n' ∉ text

/-- The state of a connection: one word or more. -/
structure StateText where
  text : Text
  some_word : text.words ≠ []
  no_feed : '\n' ∉ text

/-- A row: the addresses on both sides, the state, and the id of the owner. -/
structure ConnectionRow where
  here : PrintedAddress
  there : PrintedAddress
  state : StateText
  owner : Nat
  owner_lt : owner < Numeral.limit32

/-- How a row is set. -/
structure ConnectionLayout where
  indent : Margin
  afterProtocol : Gap
  afterHere : Gap
  afterThere : Gap
  afterState : Gap
  trail : Margin

/-- What the rows start with. -/
def connectionMark : Text := "TCP".toList

/-- The address as it is printed. -/
def PrintedAddress.text (address : PrintedAddress) : Text := address.host ++ ':' :: Numeral.render address.port.number

namespace ConnectionRow

/-- The row as a line. -/
def line (row : ConnectionRow) (layout : ConnectionLayout) : Text :=
  layout.indent.text ++ (connectionMark ++ layout.afterProtocol.text ++
    (row.here.text ++ layout.afterHere.text ++ (row.there.text ++ layout.afterThere.text ++
      (row.state.text ++ layout.afterState.text ++ (Numeral.render row.owner ++ layout.trail.text)))))

/-- The row is the row of a socket that listens on a port. -/
def Listens (port : Port) (row : ConnectionRow) : Prop := row.here.port = port ∧ row.there.port.number = 0

instance (port : Port) : DecidablePred (Listens port) := fun row =>
  inferInstanceAs (Decidable (row.here.port = port ∧ row.there.port.number = 0))

end ConnectionRow

/-- A line of the listing: a row, or a line that does not start as one. -/
inductive ConnectionLine where
  | row (connection : ConnectionRow) (layout : ConnectionLayout)
  | other (text : Text) (no_feed : '\n' ∉ text) (no_row : ¬ connectionMark <+: text.dropWhile isBlank)

namespace ConnectionLine

/-- The line as it is printed. -/
def text : ConnectionLine → Text
  | .row connection layout => connection.line layout
  | .other text _ _ => text

/-- The owner that a line gives to a port. -/
def owner? (port : Port) : ConnectionLine → Option Nat
  | .row connection _ => if connection.Listens port then some connection.owner else none
  | .other _ _ _ => none

end ConnectionLine

/-- The owners of the rows that listen on a port, in order. -/
def listenerIds (port : Port) (lines : List ConnectionLine) : List Nat :=
  lines.filterMap fun line => line.owner? port

/-! ## Reading a row -/

namespace PrintedAddress

variable (address : PrintedAddress)

theorem ne_nil : address.text ≠ [] := List.append_ne_nil_of_right_ne_nil _ (List.cons_ne_nil _ _)

theorem solid : Text.Solid address.text := by
  intro c mem
  rcases List.mem_append.mp mem with in_host | behind
  · exact address.host_solid c in_host
  · rcases List.mem_cons.mp behind with rfl | digit
    · decide
    · exact not_isBlank_of_isDigit (Numeral.isDigit_of_mem_render digit)

theorem hasPort_text (asked : Port) : SocketAddress.hasPort asked address.text = decide (address.port = asked) :=
  SocketAddress.hasPort_written address.is_host address.port asked

end PrintedAddress

theorem connectionMark_solid : Text.Solid connectionMark := by decide

theorem render_solid (n : Nat) : Text.Solid (Numeral.render n) := fun _ mem =>
  not_isBlank_of_isDigit (Numeral.isDigit_of_mem_render mem)

namespace ConnectionRow

variable (row : ConnectionRow) (layout : ConnectionLayout)

theorem words_line : (row.line layout).words =
    connectionMark :: row.here.text :: row.there.text :: (row.state.text.words ++ [Numeral.render row.owner]) := by
  have owner_word : Numeral.render row.owner ≠ [] := Nat.toDigits_ne_nil
  unfold line
  rw [Text.words_append_of_blank layout.indent.blank,
    Text.words_word_gap (by decide) connectionMark_solid layout.afterProtocol.ne_nil layout.afterProtocol.blank,
    Text.words_word_gap row.here.ne_nil row.here.solid layout.afterHere.ne_nil layout.afterHere.blank,
    Text.words_word_gap row.there.ne_nil row.there.solid layout.afterThere.ne_nil layout.afterThere.blank,
    Text.words_append_gap layout.afterState.ne_nil layout.afterState.blank,
    Text.words_append_blank layout.trail.blank, Text.words_of_solid owner_word (render_solid row.owner)]

theorem starts_line : connectionMark <+: (row.line layout).trim := by
  rw [Text.prefix_trim_iff connectionMark_solid, line, List.dropWhile_append_of_pos layout.indent.blank,
    List.append_assoc, Text.dropWhile_of_solid connectionMark_solid _ (by decide)]
  exact List.prefix_append _ _

/-- **What is read from a row**: its owner, if it listens on the port. -/
theorem connectionOwner?_line (port : Port) :
    connectionOwner? port (row.line layout) = if row.Listens port then some row.owner else none := by
  have marked : "TCP".toList.isPrefixOf (row.line layout).trim = true :=
    List.isPrefixOf_iff_prefix.mpr (row.starts_line layout)
  have listens (h : 0 < 65536) : row.there.port = ⟨0, h⟩ ∧ row.here.port = port ↔ row.Listens port := by
    rw [Port.eq_mk_iff h, and_comm, Listens]
  have read : Numeral.readBelow? Numeral.limit32 (Numeral.render row.owner) = some row.owner :=
    Numeral.readBelow?_render row.owner_lt
  obtain ⟨word, more, state⟩ := List.exists_cons_of_ne_nil row.state.some_word
  rw [connectionOwner?, if_pos marked, row.words_line layout, state]
  -- the last word is the owner's, however many words the state has
  cases more with
  | nil => simp [PrintedAddress.hasPort_text, listens, read]
  | cons next more =>
    have last (h : next :: (more ++ [Numeral.render row.owner]) ≠ []) :
        (next :: (more ++ [Numeral.render row.owner])).getLast h = Numeral.render row.owner := by
      rw [List.getLast_cons (by simp), List.getLast_append_of_ne_nil _ (by simp), List.getLast_singleton]
    simp [PrintedAddress.hasPort_text, listens, read, last]

theorem no_feed_line : '\n' ∉ row.line layout := by
  have no_feed_word {s : Text} (solid : Text.Solid s) : '\n' ∉ s := solid.not_mem (by decide)
  simp only [line, List.mem_append, not_or]
  exact ⟨layout.indent.no_feed, ⟨by decide, layout.afterProtocol.no_feed⟩,
    ⟨no_feed_word row.here.solid, layout.afterHere.no_feed⟩,
    ⟨no_feed_word row.there.solid, layout.afterThere.no_feed⟩,
    ⟨row.state.no_feed, layout.afterState.no_feed⟩, no_feed_word (render_solid row.owner), layout.trail.no_feed⟩

end ConnectionRow

namespace ConnectionLine

theorem no_feed_text (line : ConnectionLine) : '\n' ∉ line.text := by
  cases line with
  | row connection layout => exact connection.no_feed_line layout
  | other text no_feed => exact no_feed

/-- Every list of lines can be printed. -/
theorem forall_no_feed (lines : List ConnectionLine) : ∀ line ∈ lines.map text, '\n' ∉ line := by
  intro line mem
  obtain ⟨printed, -, rfl⟩ := List.mem_map.mp mem
  exact printed.no_feed_text

end ConnectionLine

theorem forall_no_feed_render (ids : List Nat) : ∀ line ∈ ids.map Numeral.render, '\n' ∉ line := by
  intro line mem
  obtain ⟨n, -, rfl⟩ := List.mem_map.mp mem
  exact Numeral.not_mem_render (by decide) n

/-! ## Reading a listing -/

variable {lines : List ConnectionLine} {text : Text} {port : Port}

theorem connectionOwner?_text (port : Port) (line : ConnectionLine) :
    connectionOwner? port line.text = line.owner? port := by
  cases line with
  | row connection layout => exact connection.connectionOwner?_line layout port
  | other text no_feed no_row =>
    have unmarked : ¬ "TCP".toList.isPrefixOf text.trim = true := by
      rw [List.isPrefixOf_iff_prefix]
      exact fun starts => no_row ((Text.prefix_trim_iff connectionMark_solid).mp starts)
    rw [ConnectionLine.text, connectionOwner?, if_neg unmarked, ConnectionLine.owner?]

/-- A carriage return at the end of a line makes no difference. -/
theorem connectionOwner?_append_return (port : Port) (line : Text) :
    connectionOwner? port (line ++ ['\r']) = connectionOwner? port line := by
  have blank : Text.Blank ['\r'] := by decide
  unfold connectionOwner?
  rw [Text.trim_append_blank blank, Text.words_append_blank blank]

theorem filterMap_connectionOwner? (printed : Text.Lined (lines.map ConnectionLine.text) text) (port : Port) :
    text.lines.filterMap (connectionOwner? port) = listenerIds port lines := by
  rw [printed.filterMap_lines (connectionOwner?_append_return port) rfl, List.filterMap_map, listenerIds]
  congr
  funext line
  exact connectionOwner?_text port line

/-- **The owners that are read for a port are those of the rows that listen on it**, each once, in order of first
appearance. -/
theorem connectionOwners_of_printed (printed : Text.Lined (lines.map ConnectionLine.text) text) (port : Port) :
    connectionOwners port text = (listenerIds port lines).eraseDups := by
  rw [connectionOwners, filterMap_connectionOwner? printed]

/-! ## Numbers on lines of their own -/

theorem pid?_append_return (line : Text) : pid? (line ++ ['\r']) = pid? line := by
  rw [pid?, Text.trim_append_blank (by decide), pid?]

theorem filterMap_pid?_render {ids : List Nat} (small : ∀ n ∈ ids, n < Numeral.limit32) :
    (ids.map Numeral.render).filterMap pid? = ids := by
  induction ids with
  | nil => rfl
  | cons n ids ih =>
    have read : pid? (Numeral.render n) = some n := by
      rw [pid?, Text.trim_of_solid (render_solid n), Numeral.readBelow?_render (small n List.mem_cons_self)]
    rw [List.map_cons, List.filterMap_cons, read, ih fun m mem => small m (List.mem_cons_of_mem n mem)]

/-- **Numbers that are printed one to a line read back**, each once. -/
theorem pids_of_printed {ids : List Nat} (small : ∀ n ∈ ids, n < Numeral.limit32)
    (printed : Text.Lined (ids.map Numeral.render) text) : pids text = ids.eraseDups := by
  rw [pids, printed.filterMap_lines pid?_append_return rfl, filterMap_pid?_render small]

theorem lt_of_mem_listenerIds {n : Nat} (mem : n ∈ listenerIds port lines) : n < Numeral.limit32 := by
  obtain ⟨line, -, owned⟩ := List.mem_filterMap.mp mem
  cases line with
  | row connection layout =>
    obtain ⟨-, same⟩ := Option.ite_none_right_eq_some.mp owned
    exact Option.some.inj same ▸ connection.owner_lt
  | other => cases owned

end Listing

end PortRelease
