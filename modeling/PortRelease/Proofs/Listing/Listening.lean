import PortRelease.Listing.Sockets
/-!
# What a listing of sockets says about a port

A row of the listing belongs to a port if it is the row of a listening socket whose local address reads with that
port (`ListensOn`); what stands behind the fifth word are its owners. The parser passes over every other line.

Whether a listening row has an owner is decided by one notion of a number (below 2^32), whether a shown owner is the
answer by another (positive and below 2^31). So there are listings with rows of a port and no answer.

* `lookup_of_listening_row`: with a row of the port, "nobody listens" is the answer just if some owner is shown, but
  none that a process can be.
* `lookup_misses_hidden_listener`: such a listing.
-/

namespace PortRelease.Listing

variable {port : Port} {line text : Text} {n : Nat}

/-! ## Rows -/

/-- A line is the row of a socket that listens on a port, with these words behind the peer's address. -/
def ListensOn (port : Port) (line : Text) (users : List Text) : Prop :=
  ∃ received sent here peer address, line.words = "LISTEN".toList :: received :: sent :: here :: peer :: users ∧
    SocketAddress.read? here = some address ∧ address.port = port

theorem hasPort_iff {here : Text} : SocketAddress.hasPort port here = true ↔
    ∃ address, SocketAddress.read? here = some address ∧ address.port = port := by
  simp only [SocketAddress.hasPort, Option.any_eq_true, decide_eq_true_eq]

theorem socketOwners?_eq_some_iff {numbers : List Nat} :
    socketOwners? port line = some numbers ↔
      ∃ users, ListensOn port line users ∧ owners (Text.join [' '] users) = numbers := by
  unfold socketOwners? ListensOn
  constructor
  · intro row
    split at row
    next state received sent here peer users words =>
      split at row
      next listens =>
        obtain ⟨address, reads, of_port⟩ := hasPort_iff.mp listens.2
        exact ⟨users, ⟨received, sent, here, peer, address, by rw [words, listens.1], reads, of_port⟩,
          Option.some.inj row⟩
      next => cases row
    next => cases row
  · rintro ⟨users, ⟨received, sent, here, peer, address, words, reads, of_port⟩, rfl⟩
    rw [words]
    exact if_pos ⟨rfl, hasPort_iff.mpr ⟨address, reads, of_port⟩⟩

/-- A listing shows a number as an owner of a port. -/
def Shows (port : Port) (text : Text) (n : Nat) : Prop :=
  ∃ line ∈ text.lines, ∃ users, ListensOn port line users ∧ n ∈ owners (Text.join [' '] users)

theorem mem_pids_iff_shows : n ∈ (listeners port text).pids ↔ Shows port text n := by
  show n ∈ (text.lines.filterMap (socketOwners? port)).flatten.eraseDups ↔ _
  rw [List.mem_eraseDups, List.mem_flatten]
  constructor
  · rintro ⟨numbers, row, shown⟩
    obtain ⟨line, here, of_port⟩ := List.mem_filterMap.mp row
    obtain ⟨users, listens, rfl⟩ := socketOwners?_eq_some_iff.mp of_port
    exact ⟨line, here, users, listens, shown⟩
  · rintro ⟨line, here, users, listens, shown⟩
    exact ⟨_, List.mem_filterMap.mpr ⟨line, here, socketOwners?_eq_some_iff.mpr ⟨users, listens, rfl⟩⟩, shown⟩

/-- A row of the port that shows no owner hides it. -/
theorem ownerHidden_iff : (listeners port text).ownerHidden = true ↔
    ∃ line ∈ text.lines, ∃ users, ListensOn port line users ∧ owners (Text.join [' '] users) = [] := by
  show (text.lines.filterMap (socketOwners? port)).any List.isEmpty = true ↔ _
  rw [List.any_eq_true]
  constructor
  · rintro ⟨numbers, row, empty⟩
    obtain ⟨line, here, of_port⟩ := List.mem_filterMap.mp row
    obtain ⟨users, listens, rfl⟩ := socketOwners?_eq_some_iff.mp of_port
    exact ⟨line, here, users, listens, List.isEmpty_iff.mp empty⟩
  · rintro ⟨line, here, users, listens, none_shown⟩
    exact ⟨_, List.mem_filterMap.mpr ⟨line, here, socketOwners?_eq_some_iff.mpr ⟨users, listens, rfl⟩⟩,
      List.isEmpty_iff.mpr none_shown⟩

/-! ## The answer -/

/-- With a row of the port and no owner shown, the owner is hidden. -/
theorem lookup_of_none_shown {users : List Text} (here : line ∈ text.lines) (listens : ListensOn port line users)
    (none_shown : ∀ n, ¬ Shows port text n) :
    (listeners port text).lookup port = .error (.ownerNotVisible port) := by
  have no_pids : (listeners port text).pids = [] :=
    List.eq_nil_iff_forall_not_mem.mpr fun n mem => none_shown n (mem_pids_iff_shows.mp mem)
  have hidden : (listeners port text).ownerHidden = true := by
    refine ownerHidden_iff.mpr ⟨line, here, users, listens, List.eq_nil_iff_forall_not_mem.mpr fun n shown => ?_⟩
    exact none_shown n ⟨line, here, users, listens, shown⟩
  rw [Listeners.lookup, no_pids, hidden]
  rfl

/-- With an owner shown, the first that a process can be is the answer. -/
theorem lookup_of_shown (shown : Shows port text n) :
    (listeners port text).lookup port = .ok (Lookup.firstOf port (listeners port text).pids) :=
  Listeners.lookup_of_pids (List.ne_nil_of_mem (mem_pids_iff_shows.mpr shown)) port

/-- **What is answered where somebody listens.** Let a listing have a row of the port. If no row of the port shows an
owner, the answer is that the owner is not visible. If rows do, it is one of the shown owners that a process can be,
if there is such a one; and only if there is none, it is that nobody listens. -/
theorem lookup_of_listening_row (port : Port) (text : Text)
    (row : ∃ line ∈ text.lines, ∃ users, ListensOn port line users) :
    let answer := (listeners port text).lookup port
    (answer = .error (.ownerNotVisible port) ↔ ∀ n, ¬ Shows port text n) ∧
    (answer = .ok .notFound ↔ (∃ n, Shows port text n) ∧ ∀ n, Shows port text n → n = 0 ∨ 2147483647 < n) ∧
    ((∃ n, Shows port text n ∧ 1 ≤ n ∧ n ≤ 2147483647) →
      ∃ binding, answer = .ok (.found binding) ∧ binding.port = port ∧ Shows port text binding.pid.number) := by
  intro answer
  obtain ⟨line, here, users, listens⟩ := row
  by_cases shown : ∃ n, Shows port text n
  · obtain ⟨n, shows⟩ := shown
    have first : answer = .ok (Lookup.firstOf port (listeners port text).pids) := lookup_of_shown shows
    refine ⟨?_, ?_, ?_⟩
    · rw [first]
      exact ⟨nofun, fun none_shown => absurd shows (none_shown n)⟩
    · rw [first, Except.ok.injEq, Lookup.firstOf_eq_notFound_iff]
      simp only [mem_pids_iff_shows, ProcessId.ofNat?_eq_none_iff]
      exact ⟨fun impossible => ⟨⟨n, shows⟩, impossible⟩, And.right⟩
    · rintro ⟨m, shows, positive, small⟩
      cases found : Lookup.firstOf port (listeners port text).pids with
      | found binding =>
        obtain ⟨its_port, before, after, pids, -⟩ := Lookup.firstOf_eq_found_iff.mp found
        refine ⟨binding, by rw [first, found], its_port, mem_pids_iff_shows.mp ?_⟩
        rw [pids]
        exact List.mem_append_right before List.mem_cons_self
      | notFound =>
        have impossible := Lookup.firstOf_eq_notFound_iff.mp found m (mem_pids_iff_shows.mpr shows)
        have := ProcessId.ofNat?_eq_none_iff.mp impossible
        omega
  · have none_shown := not_exists.mp shown
    have hidden : answer = .error (.ownerNotVisible port) := lookup_of_none_shown here listens none_shown
    refine ⟨⟨fun _ => none_shown, fun _ => hidden⟩, ?_, fun ⟨n, shows, _⟩ => absurd shows (none_shown n)⟩
    rw [hidden]
    exact ⟨nofun, fun ⟨some_shown, _⟩ => absurd some_shown shown⟩

/-- A row that hides its owner beside one that shows it: the shown owner is the answer. -/
theorem hidden_owner_beside_shown_one :
    let port : Port := ⟨5432, by decide⟩
    let text : Text := ("LISTEN 0 128 0.0.0.0:5432 0.0.0.0:*\n" ++
      "LISTEN 0 128 [::]:5432 [::]:* users:((\"postgres\",pid=610,fd=7))\n").toList
    (∃ line ∈ text.lines, ∃ users, ListensOn port line users) ∧ Shows port text 610 ∧
      ∃ binding, (listeners port text).lookup port = .ok (.found binding) ∧ binding.port = port ∧
        Shows port text binding.pid.number := by
  intro port text
  have shown : Shows port text 610 := mem_pids_iff_shows.mp (by decide +kernel)
  obtain ⟨line, here, users, listens, -⟩ := id shown
  have row : ∃ line ∈ text.lines, ∃ users, ListensOn port line users := ⟨line, here, users, listens⟩
  obtain ⟨-, -, answered⟩ := lookup_of_listening_row port text row
  exact ⟨row, shown, answered ⟨610, shown, by decide, by decide⟩⟩

/-- **A listener that is missed.** One row of the port hides its owner, the other shows an owner that is no process:
the answer is that nobody listens. -/
theorem lookup_misses_hidden_listener :
    let port : Port := ⟨80, by decide⟩
    let text : Text := ("LISTEN 0 128 0.0.0.0:80 0.0.0.0:*\n" ++
      "LISTEN 0 128 [::]:80 [::]:* users:((\"a\",pid=0,fd=3))\n").toList
    (∃ line ∈ text.lines, ListensOn port line []) ∧ (listeners port text).lookup port = .ok .notFound := by
  intro port text
  have shown : listeners port text = ⟨[0], true⟩ := by decide +kernel
  refine ⟨⟨"LISTEN 0 128 0.0.0.0:80 0.0.0.0:*".toList, by decide +kernel, ?_⟩, ?_⟩
  · exact ⟨['0'], "128".toList, "0.0.0.0:80".toList, "0.0.0.0:*".toList, ⟨['*'], port⟩, by decide +kernel,
      by decide +kernel, rfl⟩
  · rw [shown]
    rfl

end PortRelease.Listing
