import PortRelease.Platform.Unix
import PortRelease.Platform.Windows
import PortRelease.Proofs.Distinct
import PortRelease.Proofs.Listing.Connections
import PortRelease.Proofs.Listing.Processes
import PortRelease.Proofs.Text.Utf8
/-!
# Listings are read line by line

Each of the four listings is read by asking every line for something, and no line is heeded beyond a carriage return at its
end (`Text.LineReader`). So what a text gives is what its pieces between line feeds give, under either ending
(`LineReader.filterMap_lines_relined`), and two texts with a line feed between them give what the first gives and then what the
second gives (`LineReader.filterMap_lines_append`), even if the first ends with a carriage return of its own.

Owners are listed once, where they occur first, so more text adds owners behind those that are there. The first that is a
process is found before any of them (`Lookup.firstOf_append`).

* `listings_read_line_by_line`: two texts one behind the other, other line endings, and what is found already.
-/

namespace PortRelease

namespace Listing

open Text (LineReader)

variable {port : Port}

/-! ## Readers of sockets, connections and numbers -/

theorem lineReader_socketOwners? (port : Port) : LineReader (socketOwners? port) where
  append_return line := by
    unfold socketOwners?
    rw [Text.words_append_blank (by decide)]
  nothing := rfl

theorem lineReader_connectionOwner? (port : Port) : LineReader (connectionOwner? port) :=
  ⟨connectionOwner?_append_return port, rfl⟩

theorem lineReader_pid? : LineReader pid? := ⟨pid?_append_return, rfl⟩

/-! ## The four listings -/

section

variable (port : Port) (a b : Text) (ending : Text.LineEnding)

/-- What two listings of sockets say together. -/
def Listeners.union (first second : Listeners) : Listeners :=
  ⟨Distinct.union first.pids second.pids, first.ownerHidden || second.ownerHidden⟩

theorem listeners_append : listeners port (a ++ '\n' :: b) = (listeners port a).union (listeners port b) := by
  simp only [listeners, (lineReader_socketOwners? port).filterMap_lines_append, Listeners.union, List.flatten_append,
    Distinct.eraseDups_append_eq, List.any_append]

theorem listeners_relined : listeners port (Text.relined ending a) = listeners port a := by
  simp only [listeners, (lineReader_socketOwners? port).filterMap_lines_relined]

theorem connectionOwners_append :
    connectionOwners port (a ++ '\n' :: b) = Distinct.union (connectionOwners port a) (connectionOwners port b) := by
  simp only [connectionOwners, (lineReader_connectionOwner? port).filterMap_lines_append, Distinct.eraseDups_append_eq]

theorem connectionOwners_relined : connectionOwners port (Text.relined ending a) = connectionOwners port a := by
  simp only [connectionOwners, (lineReader_connectionOwner? port).filterMap_lines_relined]

theorem pids_append : pids (a ++ '\n' :: b) = Distinct.union (pids a) (pids b) := by
  simp only [pids, lineReader_pid?.filterMap_lines_append, Distinct.eraseDups_append_eq]

theorem pids_relined : pids (Text.relined ending a) = pids a := by
  simp only [pids, lineReader_pid?.filterMap_lines_relined]

theorem processTable_append : processTable (a ++ '\n' :: b) = processTable a ++ processTable b :=
  lineReader_processRow?.filterMap_lines_append a b

theorem processTable_relined : processTable (Text.relined ending a) = processTable a :=
  lineReader_processRow?.filterMap_lines_relined ending a

end

end Listing

/-! ## What is found -/

/-- Who is found among numbers is found with more behind them. -/
theorem Lookup.firstOf_append {port : Port} {first : List Nat} {binding : Binding}
    (found : firstOf port first = .found binding) (more : List Nat) : firstOf port (first ++ more) = .found binding := by
  obtain ⟨its_port, before, after, rfl, passed⟩ := firstOf_eq_found_iff.mp found
  refine firstOf_eq_found_iff.mpr ⟨its_port, before, after ++ more, ?_, passed⟩
  rw [List.append_assoc, List.cons_append]

theorem Lookup.ok_firstOf_union {port : Port} {first : List Nat} {binding : Binding}
    (found : (.ok (firstOf port first) : Except Failure Lookup) = .ok (.found binding)) (second : List Nat) :
    (.ok (firstOf port (Distinct.union first second)) : Except Failure Lookup) = .ok (.found binding) :=
  congrArg Except.ok (firstOf_append (Except.ok.inj found) _)

theorem Listing.Listeners.lookup_union {port : Port} {first : Listeners} {binding : Binding}
    (found : first.lookup port = .ok (.found binding)) (second : Listeners) :
    (first.union second).lookup port = .ok (.found binding) := by
  have some_pid : (first.union second).pids ≠ [] :=
    List.ne_nil_of_mem (List.mem_append_left _ (mem_pids_of_found found))
  rw [Listeners.lookup_of_pids some_pid]
  exact Lookup.ok_firstOf_union (congrArg Except.ok (Listeners.firstOf_of_lookup found)) second.pids

/-- The output of a tool that succeeds and prints a text. -/
def ToolOutput.printing (text : Text) : ToolOutput := ⟨.code 0, Utf8.encode text, []⟩

theorem ToolOutput.text_printing (tool : String) (text : Text) : (printing text).text tool = .ok text := by
  rw [ToolOutput.text, printing, Utf8.decode_encode]

theorem Unix.socketAnswer_printing (port : Port) (text : Text) :
    socketAnswer port (.printing text) = (Listing.listeners port text).lookup port := by
  unfold socketAnswer
  rw [ToolOutput.text_printing]
  rfl

theorem Unix.openFileAnswer_printing (port : Port) (text : Text) :
    openFileAnswer port (.printing text) = .ok (Lookup.firstOf port (Listing.pids text)) := by
  unfold openFileAnswer
  rw [ToolOutput.text_printing]
  rfl

theorem Windows.queryAnswer_printing (port : Port) (text : Text) :
    queryAnswer port (.printing text) = .ok (Lookup.firstOf port (Listing.pids text)) := by
  unfold queryAnswer ToolOutput.printing
  rw [Utf8.decodeLenient_encode]
  rfl

theorem Windows.connectionAnswer_printing (port : Port) (text : Text) :
    connectionAnswer port (.printing text) = .ok (Lookup.firstOf port (Listing.connectionOwners port text)) := by
  unfold connectionAnswer ToolOutput.printing
  rw [Utf8.decodeLenient_encode]
  rfl

/-- Who is found in a text is found with another text behind it, whichever tool printed them. -/
theorem found_append {port : Port} {answer : ToolOutput → Except Failure Lookup}
    (tool : answer ∈ [Unix.socketAnswer port, Unix.openFileAnswer port, Windows.queryAnswer port,
      Windows.connectionAnswer port])
    {a : Text} {binding : Binding} (found : answer (.printing a) = .ok (.found binding)) (b : Text) :
    answer (.printing (a ++ '\n' :: b)) = .ok (.found binding) := by
  simp only [List.mem_cons, List.not_mem_nil, or_false] at tool
  rcases tool with rfl | rfl | rfl | rfl
  · rw [Unix.socketAnswer_printing] at found ⊢
    rw [Listing.listeners_append]
    exact Listing.Listeners.lookup_union found _
  · rw [Unix.openFileAnswer_printing] at found ⊢
    rw [Listing.pids_append]
    exact Lookup.ok_firstOf_union found _
  · rw [Windows.queryAnswer_printing] at found ⊢
    rw [Listing.pids_append]
    exact Lookup.ok_firstOf_union found _
  · rw [Windows.connectionAnswer_printing] at found ⊢
    rw [Listing.connectionOwners_append]
    exact Lookup.ok_firstOf_union found _

open Listing in
/-- **Listings are read line by line, and the first match wins.** Put a line feed and a text behind another text. Then the
listeners are those of the first text and behind them those that the second adds, and an owner is hidden if either text
hides one; so with the owners among connections and with numbers on lines of their own, and a table of processes has the rows
of both. Carriage returns in front of the line feeds change nothing, and no owner is listed twice. So who is found in the
first text, by whichever tool, is found in both. -/
theorem listings_read_line_by_line (port : Port) (a b : Text) :
    let both := a ++ '\n' :: b
    let returned := Text.relined .returnLineFeed a
    listeners port both = ⟨Distinct.union (listeners port a).pids (listeners port b).pids,
      (listeners port a).ownerHidden || (listeners port b).ownerHidden⟩ ∧
    connectionOwners port both = Distinct.union (connectionOwners port a) (connectionOwners port b) ∧
    pids both = Distinct.union (pids a) (pids b) ∧
    processTable both = processTable a ++ processTable b ∧
    (listeners port returned = listeners port a ∧ connectionOwners port returned = connectionOwners port a ∧
      pids returned = pids a ∧ processTable returned = processTable a) ∧
    ((listeners port a).pids.Nodup ∧ (connectionOwners port a).Nodup ∧ (pids a).Nodup) ∧
    ∀ answer ∈ [Unix.socketAnswer port, Unix.openFileAnswer port, Windows.queryAnswer port,
        Windows.connectionAnswer port],
      ∀ binding, answer (.printing a) = .ok (.found binding) → answer (.printing both) = .ok (.found binding) := by
  intro both returned
  refine ⟨listeners_append port a b, connectionOwners_append port a b, pids_append a b, processTable_append a b,
    ⟨listeners_relined .., connectionOwners_relined .., pids_relined .., processTable_relined ..⟩, ⟨?_, ?_, ?_⟩,
    fun answer tool binding found => found_append tool found b⟩
  · exact Distinct.nodup_eraseDups _
  · exact Distinct.nodup_eraseDups _
  · exact Distinct.nodup_eraseDups _

open Listing in
/-- A text that ends with a carriage return of its own and shows a number that is no process before one that is; behind it a
text with that owner again, another one, and a row that hides its owner. -/
theorem owner_found_before_more_rows :
    let port : Port := ⟨80, by decide⟩
    let binding : Binding := ⟨port, 7, by decide, by decide⟩
    let a := "LISTEN 0 128 0.0.0.0:80 0.0.0.0:* users:((\"x\",pid=0,fd=3),(\"srv\",pid=7,fd=4))\r".toList
    let b := ("LISTEN 0 128 [::]:80 [::]:* users:((\"srv\",pid=7,fd=4),(\"y\",pid=9,fd=5))\n" ++
      "LISTEN 0 128 0.0.0.0:80 0.0.0.0:*").toList
    Unix.socketAnswer port (.printing a) = .ok (.found binding) ∧
      Unix.socketAnswer port (.printing (a ++ '\n' :: b)) = .ok (.found binding) ∧
      listeners port (a ++ '\n' :: b) = ⟨[0, 7, 9], true⟩ ∧ (listeners port (a ++ '\n' :: b)).pids.Nodup := by
  intro port binding a b
  have found : Unix.socketAnswer port (.printing a) = .ok (.found binding) := by decide +kernel
  obtain ⟨joined, -, -, -, -, -, kept⟩ := listings_read_line_by_line port a b
  obtain ⟨-, -, -, -, -, ⟨each_once, -⟩, -⟩ := listings_read_line_by_line port (a ++ '\n' :: b) []
  exact ⟨found, kept _ List.mem_cons_self binding found, joined.trans (by decide +kernel), each_once⟩

end PortRelease
