import PortRelease.Proofs.Distinct
import PortRelease.Proofs.Listing.Connections
import PortRelease.Proofs.Platform.Search
import PortRelease.Proofs.Text.Utf8
/-!
# Windows: both tools answer alike

PowerShell is asked for the owners of a port's listeners and prints them one to a line; `netstat` prints every
connection of the machine, and the listeners have to be found among them. **A search comes to the same with either tool**
(`windows_tools_agree`), if both report on the same sockets: to the first owner that a process can be. It makes no
difference that `netstat` writes states in the language of the machine, shows a listener once for each family of
addresses, and shows established connections with the same port on either side.
-/

namespace PortRelease

variable {port : Port} {w : World}

namespace Lookup

/-- A number that is reported again changes nothing. -/
theorem firstOf_eraseDups (port : Port) (numbers : List Nat) : firstOf port numbers.eraseDups = firstOf port numbers := by
  have firstOf_eq (numbers : List Nat) : firstOf port numbers =
      (numbers.findSome? ProcessId.ofNat?).elim .notFound fun pid => .found ⟨port, pid⟩ := by
    rw [← List.head?_filterMap, firstOf]
    cases numbers.filterMap ProcessId.ofNat? with
    | nil => rfl
    | cons pid more => rfl
  rw [firstOf_eq, firstOf_eq, Distinct.findSome?_eraseDups]

end Lookup

namespace Windows

/-- There is no PowerShell, and `netstat` runs with success and prints a text. -/
def Netstat (port : Port) (w : World) (text : Text) : Prop :=
  ((powershellQuery port).run w).1 = .error .noEntry ∧
    ∃ output, ((netstatQuery port).run ((powershellQuery port).run w).2).1 = .ok output ∧ output.exit = .code 0 ∧
      Utf8.decodeLenient output.stdout = text

/-- Asked for the owners of a port's listeners, PowerShell runs with success and prints a text. -/
def Powershell (port : Port) (w : World) (text : Text) : Prop :=
  ∃ output, ((powershellQuery port).run w).1 = .ok output ∧ output.exit = .code 0 ∧
    Utf8.decodeLenient output.stdout = text

variable {text : Text}

theorem lookup_of_netstat (prints : Netstat port w text) :
    (lookup port w).1 = .ok (Lookup.firstOf port (Listing.connectionOwners port text)) := by
  obtain ⟨absent, output, ran, success, rfl⟩ := prints
  have read : (netstatQuery port).answer (.ok output) = connectionAnswer port output := rfl
  rw [lookup_eq, search_of_absent absent, Query.ask_eq, ran, read, connectionAnswer,
    if_pos (ToolOutput.succeeded_iff.mpr success)]

theorem lookup_of_powershell (prints : Powershell port w text) :
    (lookup port w).1 = .ok (Lookup.firstOf port (Listing.pids text)) := by
  obtain ⟨output, ran, success, rfl⟩ := prints
  have present : ((powershellQuery port).run w).1 ≠ .error .noEntry := by
    rw [ran]
    exact nofun
  have read : (powershellQuery port).answer (.ok output) = queryAnswer port output := rfl
  rw [lookup_eq, search_of_present present, ran, read, queryAnswer, if_pos (ToolOutput.succeeded_iff.mpr success)]

end Windows

open Listing in
/-- **A search comes to the same with either tool.** What `netstat` prints is read as the owners of the rows that listen
on the port, each once and in order. On a machine without PowerShell whose `netstat` prints these rows, and on one
whose PowerShell prints their owners one to a line, a search finds the first of the owners that is neither 0 nor beyond
the ids of processes, and nobody if there is none. -/
theorem windows_tools_agree (port : Port) (lines : List ConnectionLine) (text : Text)
    (printed : Text.Lined (lines.map ConnectionLine.text) text) :
    connectionOwners port text = (listenerIds port lines).eraseDups ∧
    ∀ (w w' : World) (ids : Text), Windows.Netstat port w text → Windows.Powershell port w' ids →
      Text.Lined ((listenerIds port lines).map Numeral.render) ids →
      ∃ lookup, (Windows.lookup port w).1 = .ok lookup ∧ (Windows.lookup port w').1 = .ok lookup ∧
        (lookup = .notFound ↔ ∀ n ∈ listenerIds port lines, n = 0 ∨ 2147483647 < n) ∧
        ∀ binding, lookup = .found binding ↔ binding.port = port ∧
          ∃ before after, listenerIds port lines = before ++ binding.pid.number :: after ∧
            ∀ n ∈ before, n = 0 ∨ 2147483647 < n := by
  have owners := connectionOwners_of_printed printed port
  refine ⟨owners, ?_⟩
  intro w w' ids netstat powershell one_each
  have numbers : pids ids = (listenerIds port lines).eraseDups :=
    pids_of_printed (fun n mem => lt_of_mem_listenerIds mem) one_each
  refine ⟨Lookup.firstOf port (listenerIds port lines), ?_, ?_, ?_, ?_⟩
  · rw [Windows.lookup_of_netstat netstat, owners, Lookup.firstOf_eraseDups]
  · rw [Windows.lookup_of_powershell powershell, numbers, Lookup.firstOf_eraseDups]
  · simp only [Lookup.firstOf_eq_notFound_iff, ProcessId.ofNat?_eq_none_iff]
  · intro binding
    simp only [Lookup.firstOf_eq_found_iff, ProcessId.ofNat?_eq_none_iff]

open Listing in
/-- A listener that is shown for both families of addresses, in a language with states of two words, behind one whose
owner is not said and among connections with the same port on either side. -/
theorem listener_among_connections :
    let port : Port := ⟨8080, by decide⟩
    let none : Port := ⟨0, by decide⟩
    let any (port : Port) : PrintedAddress := ⟨"0.0.0.0".toList, by decide, .inl (by decide), port⟩
    let any6 (port : Port) : PrintedAddress :=
      ⟨"[::]".toList, by decide, .inr ⟨"::".toList, rfl, by decide⟩, port⟩
    let listening : StateText := ⟨"À l'écoute".toList, by decide, by decide⟩
    let established : StateText := ⟨"ESTABLISHED".toList, by decide, by decide⟩
    let gap : Gap := ⟨"  ".toList, by decide, by decide, by decide⟩
    let margin : Margin := ⟨"  ".toList, by decide, by decide⟩
    let layout : ConnectionLayout := ⟨margin, gap, gap, gap, gap, margin⟩
    let lines : List ConnectionLine := [
      .other "  Proto  Adresse locale".toList (by decide) (by decide),
      .row ⟨any port, any none, listening, 0, by decide⟩ layout,
      .row ⟨any port, any ⟨51000, by decide⟩, established, 99, by decide⟩ layout,
      .row ⟨any ⟨51001, by decide⟩, any port, established, 98, by decide⟩ layout,
      .row ⟨any port, any none, listening, 4321, by decide⟩ layout,
      .row ⟨any6 port, any6 none, listening, 4321, by decide⟩ layout]
    let text := Text.terminated .returnLineFeed (lines.map ConnectionLine.text)
    let ids := Text.terminated .lineFeed ((listenerIds port lines).map Numeral.render)
    let prints (tool : String) (text : Text) : World :=
      ⟨[(tool, [.ok ⟨.code 0, Utf8.encode text, []⟩])], [], [], [], 1, [], []⟩
    Text.Lined (lines.map ConnectionLine.text) text ∧
    Windows.Netstat port (prints "netstat" text) text ∧ Windows.Powershell port (prints "powershell" ids) ids ∧
    Text.Lined ((listenerIds port lines).map Numeral.render) ids ∧
    connectionOwners port text = [0, 4321] ∧
    (Windows.lookup port (prints "netstat" text)).1 = .ok (.found ⟨port, 4321, by decide, by decide⟩) ∧
    (Windows.lookup port (prints "powershell" ids)).1 = .ok (.found ⟨port, 4321, by decide, by decide⟩) := by
  intro port none any any6 listening established gap margin layout lines text ids prints
  have printed : Text.Lined (lines.map ConnectionLine.text) text :=
    Text.lined_terminated .returnLineFeed (ConnectionLine.forall_no_feed lines)
  have one_each : Text.Lined ((listenerIds port lines).map Numeral.render) ids :=
    Text.lined_terminated .lineFeed (forall_no_feed_render _)
  have netstat : Windows.Netstat port (prints "netstat" text) text :=
    ⟨rfl, ⟨.code 0, Utf8.encode text, []⟩, rfl, rfl, Utf8.decodeLenient_encode text⟩
  have powershell : Windows.Powershell port (prints "powershell" ids) ids :=
    ⟨⟨.code 0, Utf8.encode ids, []⟩, rfl, rfl, Utf8.decodeLenient_encode ids⟩
  obtain ⟨owners, agree⟩ := windows_tools_agree port lines text printed
  obtain ⟨lookup, by_netstat, by_powershell, -, found⟩ := agree _ _ ids netstat powershell one_each
  have owned : listenerIds port lines = [0, 4321, 4321] := by decide
  have first : lookup = .found ⟨port, 4321, by decide, by decide⟩ := by
    refine (found _).mpr ⟨rfl, [0], [4321], owned, by decide⟩
  subst first
  exact ⟨printed, netstat, powershell, one_each, owners.trans (by rw [owned]; decide), by_netstat, by_powershell⟩

end PortRelease
