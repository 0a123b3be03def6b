import PortRelease.Proofs.Platform.Regular
/-!
# What a search may answer

A search asks one tool, and another just if the first does not exist. The run that it comes to decides (`deciding`),
and nothing else that the world holds. Each of the four tools is asked in such a way that nothing that goes wrong
reads as an answer (`Query.Candid`): a tool that was not started, one that reported failure and, where a text is
asked for, one that printed none are failures of the search. So an answer, also the answer that nobody listens,
stands on a run that succeeded, or on the one silence that means "nobody": `lsof` exits with 1 and prints nothing.

* `failed_search_is_no_answer`: both platforms, with the events of the search and the meaning of every way in which
  the deciding run can end.
-/

namespace PortRelease

open World

variable {port : Port} {w : World}

/-! ## One tool -/

/-- The numbers that the output of a tool shows as owners of a port, in order. The output of `ss` and of `lsof` must be
a text. -/
def shown? (port : Port) (tool : String) (output : ToolOutput) : Option (List Nat) :=
  let text := (Utf8.decode output.stdout).toOption
  let repaired := Utf8.decodeLenient output.stdout
  if tool = "ss" then text.map fun text => (Listing.listeners port text).pids
  else if tool = "lsof" then text.map Listing.pids
  else if tool = "powershell" then some (Listing.pids repaired)
  else if tool = "netstat" then some (Listing.connectionOwners port repaired)
  else none

/-- The way in which a tool says by failing that it found nothing. -/
def Silence (tool : String) (output : ToolOutput) : Prop :=
  tool = "lsof" ∧ output.exit = .code 1 ∧ output.stdout = []

namespace Query

/-- What comes of running the tool of a question. -/
def run (query : Query) (w : World) : ToolRun × World := w.launch query.tool query.arguments

/-- What a run means. -/
def answer (query : Query) : ToolRun → Except Failure Lookup
  | .ok output => query.read output
  | .error e => .error (query.unstarted e)

/-- The events that a run leaves. -/
def trace (query : Query) : ToolRun → List Event
  | .ok _ => [.ran query.tool query.arguments]
  | .error _ => []

/-- A question about a port is candid: nothing that goes wrong reads as an answer. If it is `strict`, its tool must
print a text. -/
structure Candid (query : Query) (port : Port) (strict : Bool) : Prop where
  unstarted (e : Errno) : ∃ detail, query.unstarted e = .commandFailed detail
  failed {output : ToolOutput} (failure : output.exit ≠ .code 0) (spoke : ¬ Silence query.tool output) :
    ∃ detail, query.read output = .error (.commandFailed detail)
  unreadable {output : ToolOutput} {fault : Utf8.Fault} (success : output.exit = .code 0) (must : strict = true)
    (no_text : Utf8.decode output.stdout = .error fault) :
    ∃ detail, query.read output = .error (.unreadableOutput detail)
  heeded {output : ToolOutput} {numbers : List Nat} (success : output.exit = .code 0)
    (shown : shown? port query.tool output = some numbers) :
    query.read output = .ok (Lookup.firstOf port numbers) ∨
      (query.tool = "ss" ∧ numbers = [] ∧ query.read output = .error (.ownerNotVisible port))
  silent {output : ToolOutput} (silent : Silence query.tool output) : query.read output = .ok .notFound
  answered {output : ToolOutput} {lookup : Lookup} (answer : query.read output = .ok lookup) :
    (output.exit = .code 0 ∧
        ∃ numbers, shown? port query.tool output = some numbers ∧ Lookup.firstOf port numbers = lookup) ∨
      (Silence query.tool output ∧ lookup = .notFound)

theorem Candid.answered_run {query : Query} {strict : Bool} (candid : query.Candid port strict) {run : ToolRun}
    {lookup : Lookup} (answer : query.answer run = .ok lookup) :
    ∃ output, run = .ok output ∧ ((output.exit = .code 0 ∧
      ∃ numbers, shown? port query.tool output = some numbers ∧ Lookup.firstOf port numbers = lookup) ∨
        (Silence query.tool output ∧ lookup = .notFound)) := by
  cases run with
  | error e => cases answer
  | ok output => exact ⟨output, rfl, candid.answered answer⟩

theorem run_events (query : Query) (w : World) : (query.run w).2.events = w.events ++ query.trace (query.run w).1 := by
  obtain ⟨-, ⟨output, ran, events⟩ | ⟨e, refused, events⟩⟩ := launch_events query.tool query.arguments w
  · rw [show (query.run w).1 = .ok output from ran]
    exact events
  · rw [show (query.run w).1 = .error e from refused]
    exact events.trans (List.append_nil _).symm

end Query

/-- A tool succeeds just by exiting with 0. -/
theorem ToolOutput.succeeded_iff {output : ToolOutput} : output.succeeded = true ↔ output.exit = .code 0 :=
  decide_eq_true_iff

theorem ToolOutput.text_of_fault {output : ToolOutput} {fault : Utf8.Fault} (tool : String)
    (no_text : Utf8.decode output.stdout = .error fault) :
    ∃ detail, output.text tool = .error (.unreadableOutput detail) := by
  rw [text, no_text]
  exact ⟨_, rfl⟩

theorem ToolOutput.text_eq_ok_iff {output : ToolOutput} {tool : String} {printed : Text} :
    output.text tool = .ok printed ↔ (Utf8.decode output.stdout).toOption = some printed := by
  unfold text
  cases Utf8.decode output.stdout with
  | ok text => simp only [Except.ok.injEq, Except.toOption, Option.some.injEq]
  | error fault => simp only [reduceCtorEq, Except.toOption]

/-! ## The four tools -/

theorem Unix.ssQuery_candid (port : Port) : (Unix.ssQuery port).Candid port true where
  unstarted _ := ⟨_, rfl⟩
  failed {output} failure _ := by
    show ∃ detail, Unix.socketAnswer port output = _
    rw [Unix.socketAnswer, if_neg fun succeeded => failure (ToolOutput.succeeded_iff.mp succeeded)]
    exact ⟨_, rfl⟩
  unreadable {output _} success _ no_text := by
    show ∃ detail, Unix.socketAnswer port output = _
    obtain ⟨detail, unreadable⟩ := ToolOutput.text_of_fault "ss" no_text
    rw [Unix.socketAnswer, if_pos (ToolOutput.succeeded_iff.mpr success), unreadable]
    exact ⟨detail, rfl⟩
  heeded {output numbers} success shown := by
    show Unix.socketAnswer port output = _ ∨ _ ∧ _ ∧ Unix.socketAnswer port output = _
    obtain ⟨text, readable, rfl⟩ := Option.map_eq_some_iff.mp shown
    rw [Unix.socketAnswer, if_pos (ToolOutput.succeeded_iff.mpr success), ToolOutput.text_eq_ok_iff.mpr readable]
    show (Listing.listeners port text).lookup port = _ ∨ _ ∧ _ ∧ (Listing.listeners port text).lookup port = _
    unfold Listing.Listeners.lookup
    split
    next hidden => exact .inr ⟨rfl, List.isEmpty_iff.mp (Bool.and_eq_true_iff.mp hidden).1, rfl⟩
    next => exact .inl rfl
  silent silent := absurd silent.1 (show "ss" ≠ "lsof" by decide)
  answered {output lookup} answer := by
    change Unix.socketAnswer port output = .ok lookup at answer
    unfold Unix.socketAnswer at answer
    split at answer
    next succeeded =>
      split at answer
      next text readable =>
        have shown : shown? port "ss" output = some (Listing.listeners port text).pids :=
          Option.map_eq_some_iff.mpr ⟨text, ToolOutput.text_eq_ok_iff.mp readable, rfl⟩
        exact .inl ⟨ToolOutput.succeeded_iff.mp succeeded, _, shown, Listing.Listeners.firstOf_of_lookup answer⟩
      next => cases answer
    next => cases answer

theorem Unix.lsofQuery_candid (port : Port) : (Unix.lsofQuery port).Candid port true where
  unstarted _ := ⟨_, rfl⟩
  failed {output} failure spoke := by
    show ∃ detail, Unix.openFileAnswer port output = _
    rw [Unix.openFileAnswer, if_neg fun succeeded => failure (ToolOutput.succeeded_iff.mp succeeded),
      if_neg fun silent => spoke ⟨rfl, silent⟩]
    exact ⟨_, rfl⟩
  unreadable {output _} success _ no_text := by
    show ∃ detail, Unix.openFileAnswer port output = _
    obtain ⟨detail, unreadable⟩ := ToolOutput.text_of_fault "lsof" no_text
    rw [Unix.openFileAnswer, if_pos (ToolOutput.succeeded_iff.mpr success), unreadable]
    exact ⟨detail, rfl⟩
  heeded {output numbers} success shown := by
    refine .inl ?_
    show Unix.openFileAnswer port output = _
    obtain ⟨text, readable, rfl⟩ := Option.map_eq_some_iff.mp shown
    rw [Unix.openFileAnswer, if_pos (ToolOutput.succeeded_iff.mpr success), ToolOutput.text_eq_ok_iff.mpr readable]
  silent {output} silent := by
    show Unix.openFileAnswer port output = _
    have failed : output.succeeded ≠ true := fun succeeded => by
      rw [ToolOutput.succeeded_iff, silent.2.1] at succeeded
      cases succeeded
    rw [Unix.openFileAnswer, if_neg failed, if_pos silent.2]
  answered {output lookup} answer := by
    change Unix.openFileAnswer port output = .ok lookup at answer
    unfold Unix.openFileAnswer at answer
    split at answer
    next succeeded =>
      split at answer
      next text readable =>
        have shown : shown? port "lsof" output = some (Listing.pids text) :=
          Option.map_eq_some_iff.mpr ⟨text, ToolOutput.text_eq_ok_iff.mp readable, rfl⟩
        exact .inl ⟨ToolOutput.succeeded_iff.mp succeeded, _, shown, Except.ok.inj answer⟩
      next => cases answer
    next =>
      split at answer
      next silent => exact .inr ⟨⟨rfl, silent⟩, (Except.ok.inj answer).symm⟩
      next => cases answer

theorem Windows.powershellQuery_candid (port : Port) : (Windows.powershellQuery port).Candid port false where
  unstarted _ := ⟨_, rfl⟩
  failed {output} failure _ := by
    show ∃ detail, Windows.queryAnswer port output = _
    rw [Windows.queryAnswer, if_neg fun succeeded => failure (ToolOutput.succeeded_iff.mp succeeded)]
    exact ⟨_, rfl⟩
  unreadable _ must := nomatch must
  heeded {output numbers} success shown := by
    refine .inl ?_
    show Windows.queryAnswer port output = _
    obtain rfl := Option.some.inj shown
    rw [Windows.queryAnswer, if_pos (ToolOutput.succeeded_iff.mpr success)]
  silent silent := absurd silent.1 (show "powershell" ≠ "lsof" by decide)
  answered {output lookup} answer := by
    change Windows.queryAnswer port output = .ok lookup at answer
    unfold Windows.queryAnswer at answer
    split at answer
    next succeeded =>
      exact .inl ⟨ToolOutput.succeeded_iff.mp succeeded, _, rfl, Except.ok.inj answer⟩
    next => cases answer

theorem Windows.netstatQuery_candid (port : Port) : (Windows.netstatQuery port).Candid port false where
  unstarted _ := ⟨_, rfl⟩
  failed {output} failure _ := by
    show ∃ detail, Windows.connectionAnswer port output = _
    rw [Windows.connectionAnswer, if_neg fun succeeded => failure (ToolOutput.succeeded_iff.mp succeeded)]
    exact ⟨_, rfl⟩
  unreadable _ must := nomatch must
  heeded {output numbers} success shown := by
    refine .inl ?_
    show Windows.connectionAnswer port output = _
    obtain rfl := Option.some.inj shown
    rw [Windows.connectionAnswer, if_pos (ToolOutput.succeeded_iff.mpr success)]
  silent silent := absurd silent.1 (show "netstat" ≠ "lsof" by decide)
  answered {output lookup} answer := by
    change Windows.connectionAnswer port output = .ok lookup at answer
    unfold Windows.connectionAnswer at answer
    split at answer
    next succeeded =>
      exact .inl ⟨ToolOutput.succeeded_iff.mp succeeded, _, rfl, Except.ok.inj answer⟩
    next => cases answer

/-! ## The search -/

/-- The question that decides a search and what its tool came to: the first question, or the second if the tool of the
first does not exist. -/
def deciding (first second : Query) (w : World) : Query × ToolRun :=
  if (first.run w).1 = .error .noEntry then (second, (second.run (first.run w).2).1) else (first, (first.run w).1)

variable {first second : Query}

theorem Query.ask_eq (query : Query) (w : World) : query.ask w = (query.answer (query.run w).1, (query.run w).2) := by
  unfold ask
  split
  next ran => rw [show query.run w = _ from ran, answer]
  next refused => rw [show query.run w = _ from refused, answer]

/-- The second tool is asked if the first does not exist, and otherwise not. -/
theorem search_of_absent (absent : (first.run w).1 = .error .noEntry) :
    search first second w = second.ask (first.run w).2 := by
  have refused : w.launch first.tool first.arguments = (.error .noEntry, (first.run w).2) := Prod.ext absent rfl
  rw [search, refused]
  exact if_pos rfl

theorem search_of_present (present : (first.run w).1 ≠ .error .noEntry) :
    search first second w = (first.answer (first.run w).1, (first.run w).2) := by
  unfold search
  split
  next output after ran => rw [show first.run w = (.ok output, after) from ran, Query.answer]
  next e after refused =>
    rw [show first.run w = (.error e, after) from refused] at present ⊢
    exact if_neg fun absent => present (congrArg Except.error absent)

theorem search_result (first second : Query) (w : World) :
    (search first second w).1 = (deciding first second w).1.answer (deciding first second w).2 := by
  by_cases absent : (first.run w).1 = .error .noEntry
  · rw [search_of_absent absent, Query.ask_eq, deciding, if_pos absent]
  · rw [search_of_present absent, deciding, if_neg absent]

theorem search_events (first second : Query) (w : World) :
    (search first second w).2.events = w.events ++ first.trace (first.run w).1 ++
      if (first.run w).1 = .error .noEntry then second.trace (second.run (first.run w).2).1 else [] := by
  by_cases absent : (first.run w).1 = .error .noEntry
  · rw [search_of_absent absent, Query.ask_eq, if_pos absent, Query.run_events, Query.run_events]
  · rw [search_of_present absent, if_neg absent, Query.run_events, List.append_nil]

/-! ## Both platforms -/

/-- The platforms that can be searched. -/
inductive Platform where
  | unix
  | windows
  deriving DecidableEq

namespace Platform

def controller : Platform → Controller
  | unix => .unix
  | windows => .windows

/-- The question that is asked first. -/
def primary (port : Port) : Platform → Query
  | unix => Unix.ssQuery port
  | windows => Windows.powershellQuery port

/-- The question that is asked where the tool of the first does not exist. -/
def fallback (port : Port) : Platform → Query
  | unix => Unix.lsofQuery port
  | windows => Windows.netstatQuery port

theorem lookup_eq (platform : Platform) (port : Port) (w : World) :
    platform.controller.lookup port w = search (platform.primary port) (platform.fallback port) w := by
  cases platform with
  | unix => exact Unix.lookup_eq port w
  | windows => exact Windows.lookup_eq port w

theorem candid (platform : Platform) (port : Port) (w : World) :
    (deciding (platform.primary port) (platform.fallback port) w).1.Candid port (platform == unix) := by
  unfold deciding
  cases platform with
  | unix =>
    split
    · exact Unix.lsofQuery_candid port
    · exact Unix.ssQuery_candid port
  | windows =>
    split
    · exact Windows.netstatQuery_candid port
    · exact Windows.powershellQuery_candid port

end Platform

/-- **A search that fails never reads as "nobody listens".** The first tool is run; only if it does not exist, the
second. Of the world nothing else decides than the run that this comes to: if its tool was not started or reported
failure, or on a Unix machine printed no text, the search fails. Nobody is reported to listen only if the tool
succeeded and showed no number that a process can have, or was `lsof` and found nothing in its silent way. A process
that is found is the first that the tool, with success, showed for this port. -/
theorem failed_search_is_no_answer (platform : Platform) (port : Port) (w : World) :
    let primary := platform.primary port
    let fallback := platform.fallback port
    let first := primary.run w
    let second := fallback.run first.2
    let searched := platform.controller.lookup port w
    searched.2.events = w.events ++ primary.trace first.1 ++
      (if first.1 = .error .noEntry then fallback.trace second.1 else []) ∧
    (∀ w' : World, (primary.run w').1 = first.1 →
      (first.1 = .error .noEntry → (fallback.run (primary.run w').2).1 = second.1) →
      (platform.controller.lookup port w').1 = searched.1) ∧
    ∃ tool run,
      (first.1 ≠ .error .noEntry → tool = primary.tool ∧ run = first.1) ∧
      (first.1 = .error .noEntry → tool = fallback.tool ∧ run = second.1) ∧
      (∀ e, run = .error e → ∃ detail, searched.1 = .error (.commandFailed detail)) ∧
      (∀ output, run = .ok output → output.exit ≠ .code 0 → ¬ Silence tool output →
        ∃ detail, searched.1 = .error (.commandFailed detail)) ∧
      (∀ output fault, run = .ok output → output.exit = .code 0 → platform = .unix →
        Utf8.decode output.stdout = .error fault → ∃ detail, searched.1 = .error (.unreadableOutput detail)) ∧
      (∀ output numbers, run = .ok output → output.exit = .code 0 → shown? port tool output = some numbers →
        searched.1 = .ok (Lookup.firstOf port numbers) ∨
          (tool = "ss" ∧ numbers = [] ∧ searched.1 = .error (.ownerNotVisible port))) ∧
      (∀ output, run = .ok output → Silence tool output → searched.1 = .ok .notFound) ∧
      (searched.1 = .ok .notFound → ∃ output, run = .ok output ∧
        (Silence tool output ∨ output.exit = .code 0 ∧
          ∃ numbers, shown? port tool output = some numbers ∧ ∀ n ∈ numbers, n = 0 ∨ 2147483647 < n)) ∧
      (∀ binding, searched.1 = .ok (.found binding) →
        binding.port = port ∧ 1 ≤ binding.pid.number ∧ binding.pid.number ≤ 2147483647 ∧
        ∃ output, run = .ok output ∧ output.exit = .code 0 ∧
          ∃ before after, shown? port tool output = some (before ++ binding.pid.number :: after) ∧
            ∀ n ∈ before, n = 0 ∨ 2147483647 < n) := by
  intro primary fallback first second searched
  have result : ∀ w' : World, (platform.controller.lookup port w').1 =
      (deciding primary fallback w').1.answer (deciding primary fallback w').2 := by
    intro w'
    rw [platform.lookup_eq]
    exact search_result primary fallback w'
  have candid := platform.candid port w
  refine ⟨?_, ?_, ?_⟩
  · unfold searched
    rw [platform.lookup_eq]
    exact search_events primary fallback w
  · intro w' same_first same_second
    have same : deciding primary fallback w' = deciding primary fallback w := by
      unfold deciding
      rw [same_first]
      by_cases absent : first.1 = .error .noEntry
      · rw [if_pos absent, if_pos absent, same_second absent]
      · rw [if_neg absent, if_neg absent]
    rw [result w', same, ← result w]
  · refine ⟨(deciding primary fallback w).1.tool, (deciding primary fallback w).2, fun present => ?_, fun absent => ?_,
      fun e refused => ?_, fun output ran failure spoke => ?_, fun output fault ran success unix no_text => ?_,
      fun output numbers ran success shown => ?_, fun output ran silent => ?_, fun nobody => ?_,
      fun binding found => ?_⟩
    · rw [deciding, if_neg present]
      exact ⟨rfl, rfl⟩
    · rw [deciding, if_pos absent]
      exact ⟨rfl, rfl⟩
    · obtain ⟨detail, failed⟩ := candid.unstarted e
      exact ⟨detail, by rw [result w, refused, Query.answer, failed]⟩
    · obtain ⟨detail, failed⟩ := candid.failed failure spoke
      exact ⟨detail, by rw [result w, ran, Query.answer, failed]⟩
    · obtain ⟨detail, failed⟩ := candid.unreadable success (beq_iff_eq.mpr unix) no_text
      exact ⟨detail, by rw [result w, ran, Query.answer, failed]⟩
    · rw [result w, ran, Query.answer]
      exact candid.heeded success shown
    · rw [result w, ran, Query.answer]
      exact candid.silent silent
    · obtain ⟨output, ran, ⟨success, numbers, shown, first⟩ | ⟨silent, -⟩⟩ :=
        candid.answered_run ((result w).symm.trans nobody)
      · have impossible := Lookup.firstOf_eq_notFound_iff.mp first
        exact ⟨output, ran, .inr ⟨success, numbers, shown,
          fun n mem => ProcessId.ofNat?_eq_none_iff.mp (impossible n mem)⟩⟩
      · exact ⟨output, ran, .inl silent⟩
    · obtain ⟨output, ran, ⟨success, numbers, shown, first⟩ | ⟨-, nobody⟩⟩ :=
        candid.answered_run ((result w).symm.trans found)
      · obtain ⟨its_port, before, after, rfl, skipped⟩ := Lookup.firstOf_eq_found_iff.mp first
        exact ⟨its_port, binding.pid.number_pos, binding.pid.number_le, output, ran, success, before, after, shown,
          fun n mem => ProcessId.ofNat?_eq_none_iff.mp (skipped n mem)⟩
      · cases nobody

/-- `ss` may not be run, so the search fails, although `lsof` would have said that nobody listens. -/
example :
    let silent : ToolOutput := ⟨.code 1, [], []⟩
    let w : World := ⟨[("ss", [.error .accessDenied]), ("lsof", [.ok silent])], [], [], [], 1, [], []⟩
    (Unix.lookup ⟨80, by decide⟩ w).1 =
      .error (.commandFailed "Failed to run ss: Permission denied (os error 13)") := by decide

end PortRelease
