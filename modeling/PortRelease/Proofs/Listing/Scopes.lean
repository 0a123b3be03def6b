import PortRelease.Proofs.Listing.Listening
import PortRelease.Proofs.Listing.Printed
/-!
# Sockets that are bound to an interface

A listing shows the address of such a socket with a scope: a percent sign and the name of the interface stand behind the
host, before the colon. A host without brackets ends at the last colon, so the scope is a part of it and the port is read
as before. A host in brackets must have the colon right behind its closing bracket, and the scope stands there.

* `scope_read_iff_unbracketed`: so the scoped address is read, and the row of the socket counted, just if the host is
  not in brackets.
* `scoped_listener_missed`: a port that is reported free although the listing shows who listens on it.
-/

namespace PortRelease.Listing

variable {host inner : Text} {port : Port}

/-- The name of an interface: a word without the marks of an address. -/
structure Interface extends Word where
  unmarked : ∀ mark ∈ [':', '%', '[', ']'], mark ∉ text
  deriving DecidableEq

/-- A host with a scope. -/
def withScope (host : Text) (interface : Interface) : Text := host ++ '%' :: interface.text

/-- A scope is a part of any host that has no brackets around it. -/
theorem read?_scoped_of_unbracketed (unbracketed : host.head? ≠ some '[') (interface : Interface) (port : Port) :
    SocketAddress.read? (withScope host interface ++ ':' :: Numeral.render port.number) =
      some ⟨withScope host interface, port⟩ := by
  have scope_mem : '%' ∈ withScope host interface := List.mem_append_right host List.mem_cons_self
  have unbracketed : (withScope host interface).head? ≠ some '[' := by
    cases host with
    | nil => exact fun head => absurd (Option.some.inj head) (by decide)
    | cons c rest => exact unbracketed
  -- both hosts that mean every interface have no percent sign
  have as_it_is : SocketAddress.canonicalHost (withScope host interface) = withScope host interface := by
    refine if_neg (not_or.mpr ⟨List.ne_nil_of_mem scope_mem, fun same => ?_⟩)
    rw [same] at scope_mem
    exact absurd scope_mem (by decide)
  rw [SocketAddress.read?_plain unbracketed (Numeral.not_mem_render (by decide) _), Port.read?_render, Option.map_some,
    as_it_is]

/-- Behind brackets it is not read. -/
theorem read?_scoped_of_bracketed (unclosed : ']' ∉ inner) (interface : Interface) (numeral : Text) :
    SocketAddress.read? (withScope ('[' :: inner ++ [']']) interface ++ ':' :: numeral) = none := by
  have form : withScope ('[' :: inner ++ [']']) interface ++ ':' :: numeral =
      '[' :: (inner ++ ']' :: '%' :: (interface.text ++ ':' :: numeral)) := by
    simp [withScope]
  rw [form, SocketAddress.read?, SocketAddress.readBracketed?, Text.splitFirst_append unclosed]
  rfl

/-- **A scope is read just behind a host without brackets.** Let a host be read with a port. With a scope behind a host
that is not in brackets the same port is read, and the scope is a part of the host. With a scope behind one in brackets
nothing is read. So the row of a socket that listens on the scoped address is counted as one of the port just if the
host is not in brackets; otherwise it is passed over. -/
theorem scope_read_iff_unbracketed
    (reads : SocketAddress.hasPort port (host ++ ':' :: Numeral.render port.number) = true) (interface : Interface) :
    let here := withScope host interface ++ ':' :: Numeral.render port.number
    (SocketAddress.hasPort port here = true ↔ host.head? ≠ some '[') ∧
    (host.head? ≠ some '[' → SocketAddress.read? here = some ⟨withScope host interface, port⟩) ∧
    (host.head? = some '[' → SocketAddress.read? here = none) ∧
    ∀ line received sent peer users,
      line.words = "LISTEN".toList :: received :: sent :: here :: peer :: users →
      (host.head? ≠ some '[' → socketOwners? port line = some (owners (Text.join [' '] users))) ∧
      (host.head? = some '[' → socketOwners? port line = none) := by
  intro here
  obtain ⟨address, read, -⟩ := hasPort_iff.mp reads
  have of_unbracketed (unbracketed : host.head? ≠ some '[') :
      SocketAddress.read? here = some ⟨withScope host interface, port⟩ :=
    read?_scoped_of_unbracketed unbracketed interface port
  have of_bracketed (bracketed : host.head? = some '[') : SocketAddress.read? here = none := by
    obtain unbracketed | ⟨inner, rfl, unclosed⟩ := SocketAddress.isHost_of_read? read
    · exact absurd bracketed unbracketed
    · exact read?_scoped_of_bracketed unclosed interface _
  have counted (unbracketed : host.head? ≠ some '[') : SocketAddress.hasPort port here = true :=
    hasPort_iff.mpr ⟨_, of_unbracketed unbracketed, rfl⟩
  have uncounted (bracketed : host.head? = some '[') : SocketAddress.hasPort port here = false := by
    rw [SocketAddress.hasPort, of_bracketed bracketed]
    rfl
  refine ⟨⟨fun has bracketed => ?_, counted⟩, of_unbracketed, of_bracketed, ?_⟩
  · rw [uncounted bracketed] at has
    cases has
  · intro line received sent peer users words
    constructor
    · intro unbracketed
      rw [socketOwners?, words]
      exact if_pos ⟨rfl, counted unbracketed⟩
    · intro bracketed
      rw [socketOwners?, words]
      refine if_neg ?_
      rintro ⟨-, has⟩
      rw [uncounted bracketed] at has
      cases has

/-- A resolver on the loopback interface, at an address without brackets and at one in brackets. -/
theorem scoped_resolver_read_or_not :
    let port : Port := ⟨53, by decide⟩
    let interface : Interface := ⟨⟨"lo".toList, by decide, by decide⟩, by simp⟩
    let here (host : Text) : Text := withScope host interface ++ ':' :: Numeral.render 53
    let line : Text := "LISTEN 0 4096 127.0.0.53%lo:53 0.0.0.0:* users:((\"r\",pid=7,fd=3))".toList
    (SocketAddress.hasPort port ("127.0.0.53".toList ++ ':' :: Numeral.render 53) = true ∧
      SocketAddress.read? (here "127.0.0.53".toList) = some ⟨"127.0.0.53%lo".toList, port⟩ ∧
      socketOwners? port line = some [7]) ∧
    SocketAddress.hasPort port ("[fe80::1]".toList ++ ':' :: Numeral.render 53) = true ∧
      SocketAddress.read? (here "[fe80::1]".toList) = none := by
  intro port interface here line
  have plain : SocketAddress.hasPort port ("127.0.0.53".toList ++ ':' :: Numeral.render 53) = true := by decide
  have bracketed : SocketAddress.hasPort port ("[fe80::1]".toList ++ ':' :: Numeral.render 53) = true := by decide
  have words : line.words = ["LISTEN".toList, ['0'], "4096".toList, here "127.0.0.53".toList, "0.0.0.0:*".toList,
      "users:((\"r\",pid=7,fd=3))".toList] := by decide +kernel
  obtain ⟨-, read, -, rows⟩ := scope_read_iff_unbracketed plain interface
  obtain ⟨-, -, unread, -⟩ := scope_read_iff_unbracketed bracketed interface
  have row := (rows line _ _ _ _ words).1 (by decide)
  exact ⟨⟨plain, read (by decide), row.trans (by decide +kernel)⟩, bracketed, unread rfl⟩

/-- **A listener that a scope hides.** The address is read with its port, and not with a scope; and where a listing has
the scoped row and nothing else, nobody is said to listen, although the row shows who does. -/
theorem scoped_listener_missed :
    let port : Port := ⟨53, by decide⟩
    let interface : Interface := ⟨⟨"eth0".toList, by decide, by decide⟩, by simp⟩
    let here : Text := withScope "[fe80::1]".toList interface ++ ':' :: Numeral.render 53
    let text : Text := "LISTEN 0 4096 [fe80::1]%eth0:53 [::]:* users:((\"named\",pid=77,fd=4))\n".toList
    SocketAddress.hasPort port ("[fe80::1]".toList ++ ':' :: Numeral.render 53) = true ∧
    ¬ SocketAddress.hasPort port here = true ∧
    (∃ line ∈ text.lines, ∃ received sent peer users,
      line.words = "LISTEN".toList :: received :: sent :: here :: peer :: users ∧
      owners (Text.join [' '] users) = [77]) ∧
    (listeners port text).lookup port = .ok .notFound := by
  intro port interface here text
  have missed : listeners port text = ⟨[], false⟩ := by decide +kernel
  refine ⟨by decide, by decide, ⟨text.dropLast, by decide +kernel, ['0'], "4096".toList, "[::]:*".toList,
    ["users:((\"named\",pid=77,fd=4))".toList], by decide +kernel, by decide +kernel⟩, ?_⟩
  rw [missed]
  rfl

end PortRelease.Listing
