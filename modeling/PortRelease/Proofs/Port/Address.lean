import PortRelease.Port.Address
import PortRelease.Proofs.Text.Numeral
/-!
# Written addresses

An address is spelled as a host, a colon and a port in any of its spellings. A host in brackets ends at its first closing
bracket; any other host ends at the last colon, which is the one before the port because a numeral holds none. Hosts
that mean every interface are given one name.

* `address_read_iff_spelled`: a text is read as an address just if it spells the address, and the address in its own host
  and plain numeral reads as itself.
* `isHost_of_read?`: nothing else that stands before a colon and a plain numeral is read with that number.
-/

namespace PortRelease

namespace Port

variable {s : Text} {port : Port}

/-- A port is read from the spellings of its number. -/
theorem read?_eq_some_iff : read? s = some port ↔ Numeral.Spelled port.number s := by
  rw [read?, Option.bind_eq_some_iff]
  constructor
  · rintro ⟨n, reads, in_range⟩
    rw [number_of_ofNat? in_range]
    exact Numeral.readNat?_eq_some_iff.mp reads
  · intro spelled
    exact ⟨port.number, Numeral.readNat?_eq_some_iff.mpr spelled, ofNat?_number port⟩

theorem read?_render (port : Port) : read? (Numeral.render port.number) = some port :=
  read?_eq_some_iff.mpr (.unsigned 0)

/-- So the colon in front of a port is the last one. -/
theorem no_colon_of_spelled {n : Nat} (spelled : Numeral.Spelled n s) : ':' ∉ s :=
  spelled.not_mem (by decide) (by decide)

end Port

namespace SocketAddress

variable {host inner numeral text : Text} {address : SocketAddress}

theorem read?_plain (unbracketed : host.head? ≠ some '[') (no_colon : ':' ∉ numeral) :
    read? (host ++ ':' :: numeral) = (Port.read? numeral).map fun port => ⟨canonicalHost host, port⟩ := by
  have plain : read? (host ++ ':' :: numeral) = readPlain? (host ++ ':' :: numeral) := by
    unfold read?
    split
    next rest starts =>
      cases host with
      | nil => cases starts
      | cons c host => exact absurd (congrArg List.head? starts) unbracketed
    next => rfl
  rw [plain, readPlain?, Text.splitLast_append no_colon]

theorem read?_bracketed (unclosed : ']' ∉ inner) :
    read? ('[' :: inner ++ ']' :: ':' :: numeral) =
      (Port.read? numeral).map fun port => ⟨'[' :: inner ++ [']'], port⟩ := by
  rw [List.cons_append, read?, readBracketed?, Text.splitFirst_append unclosed]
  rfl

/-! ## What is read -/

/-- **How an address is spelled.** In front of the colon and the port stands its host: one that is in brackets and has no
closing bracket inside, or one that does not start with an opening bracket and may hold colons. Every interface may go
unnamed there, or by the address `0.0.0.0`; any other host has one spelling. -/
inductive Spelled : SocketAddress → Text → Prop
  | everyInterface {host numeral : Text} {port : Port} (unspecified : host = [] ∨ host = "0.0.0.0".toList)
    (port_spelled : Numeral.Spelled port.number numeral) : Spelled ⟨['*'], port⟩ (host ++ ':' :: numeral)
  | plain {host numeral : Text} {port : Port} (specified : ¬(host = [] ∨ host = "0.0.0.0".toList))
    (unbracketed : host.head? ≠ some '[') (port_spelled : Numeral.Spelled port.number numeral) :
    Spelled ⟨host, port⟩ (host ++ ':' :: numeral)
  | bracketed {inner numeral : Text} {port : Port} (unclosed : ']' ∉ inner)
    (port_spelled : Numeral.Spelled port.number numeral) :
    Spelled ⟨'[' :: inner ++ [']'], port⟩ ('[' :: inner ++ ']' :: ':' :: numeral)

theorem unbracketed_of_unspecified (unspecified : host = [] ∨ host = "0.0.0.0".toList) : host.head? ≠ some '[' := by
  rcases unspecified with rfl | rfl
  · decide
  · decide

theorem read?_of_spelled (spelled : Spelled address text) : read? text = some address := by
  cases spelled with
  | everyInterface unspecified port_spelled =>
    rw [read?_plain (unbracketed_of_unspecified unspecified) (Port.no_colon_of_spelled port_spelled),
      Port.read?_eq_some_iff.mpr port_spelled, Option.map_some, canonicalHost, if_pos unspecified]
    rfl
  | plain specified unbracketed port_spelled =>
    rw [read?_plain unbracketed (Port.no_colon_of_spelled port_spelled), Port.read?_eq_some_iff.mpr port_spelled,
      Option.map_some, canonicalHost, if_neg specified]
  | bracketed unclosed port_spelled =>
    rw [read?_bracketed unclosed, Port.read?_eq_some_iff.mpr port_spelled, Option.map_some]

theorem spelled_of_readBracketed? (reads : readBracketed? text = some address) : Spelled address ('[' :: text) := by
  unfold readBracketed? at reads
  split at reads
  next inner numeral split =>
    obtain ⟨port, port_reads, rfl⟩ := Option.map_eq_some_iff.mp reads
    rw [Text.eq_of_splitFirst split]
    exact .bracketed (Text.not_mem_of_splitFirst split) (Port.read?_eq_some_iff.mp port_reads)
  next => cases reads

theorem spelled_of_readPlain? (unbracketed : text.head? ≠ some '[') (reads : readPlain? text = some address) :
    Spelled address text := by
  unfold readPlain? at reads
  split at reads
  next host numeral split =>
    obtain ⟨port, port_reads, rfl⟩ := Option.map_eq_some_iff.mp reads
    obtain rfl := Text.eq_of_splitLast split
    have port_spelled := Port.read?_eq_some_iff.mp port_reads
    by_cases unspecified : host = [] ∨ host = "0.0.0.0".toList
    · rw [canonicalHost, if_pos unspecified]
      exact .everyInterface unspecified port_spelled
    · rw [canonicalHost, if_neg unspecified]
      refine .plain unspecified (fun bracket => unbracketed ?_) port_spelled
      rw [List.head?_append, bracket, Option.some_or]
  next => cases reads

theorem spelled_of_read? (reads : read? text = some address) : Spelled address text := by
  unfold read? at reads
  split at reads
  next => exact spelled_of_readBracketed? reads
  next unbracketed =>
    refine spelled_of_readPlain? (fun bracket => ?_) reads
    obtain ⟨rest, starts⟩ := List.head?_eq_some_iff.mp bracket
    exact unbracketed rest starts

/-- The host under which an address is known, and the plain numeral of its port, spell the address. -/
theorem Spelled.canonical (spelled : Spelled address text) :
    Spelled address (address.host ++ ':' :: Numeral.render address.port.number) := by
  cases spelled with
  | everyInterface => exact .plain (by decide) (by decide) (.unsigned 0)
  | plain specified unbracketed => exact .plain specified unbracketed (.unsigned 0)
  | bracketed unclosed =>
    rw [List.append_assoc]
    exact .bracketed unclosed (.unsigned 0)

/-- **A text is read as an address just if it spells the address**: in front of its last colon stands a host that does not
start with a bracket, or a host in brackets with that colon right behind them, and the port is any spelling of a number
below 65536. And what is read is canonical: written with its own host and the plain numeral of its port, an address reads
as itself. -/
theorem address_read_iff_spelled :
    (∀ (text : Text) (address : SocketAddress), read? text = some address ↔ Spelled address text) ∧
    ∀ (text : Text) (address : SocketAddress), read? text = some address →
      read? (address.host ++ ':' :: Numeral.render address.port.number) = some address := by
  constructor
  · intro text address
    exact ⟨spelled_of_read?, read?_of_spelled⟩
  · intro text address reads
    exact read?_of_spelled (spelled_of_read? reads).canonical

/-- Ports with zeros and a sign in front, read, and read again as they are known; and a port that is too large by one. -/
theorem addresses_of_padded_ports :
    let loopback : SocketAddress := ⟨"[::1]".toList, ⟨65535, by decide⟩⟩
    let every : SocketAddress := ⟨['*'], ⟨80, by decide⟩⟩
    (read? "[::1]:+0065535".toList = some loopback ∧ read? "[::1]:65535".toList = some loopback) ∧
      (Spelled every "0.0.0.0:00080".toList ∧ read? "*:80".toList = some every) ∧
      ∀ address, ¬Spelled address "[::1]:65536".toList := by
  intro loopback every
  obtain ⟨reads_iff, canonical⟩ := address_read_iff_spelled
  have padded : read? "[::1]:+0065535".toList = some loopback := by decide
  have unspecified : read? "0.0.0.0:00080".toList = some every := by decide
  have loopback_plain : loopback.host ++ ':' :: Numeral.render loopback.port.number = "[::1]:65535".toList := by decide
  have every_plain : every.host ++ ':' :: Numeral.render every.port.number = "*:80".toList := by decide
  refine ⟨⟨padded, ?_⟩, ⟨(reads_iff _ _).mp unspecified, ?_⟩, fun address spelled => ?_⟩
  · rw [← loopback_plain, canonical _ _ padded]
  · rw [← every_plain, canonical _ _ unspecified]
  · have too_large : read? "[::1]:65536".toList = none := by decide
    rw [(reads_iff _ _).mpr spelled] at too_large
    cases too_large

/-! ## Hosts -/

/-- A text that can stand before the port: it is in brackets and has no closing bracket inside, or it does not start
with an opening one. -/
def IsHost (host : Text) : Prop :=
  host.head? ≠ some '[' ∨ ∃ inner, host = '[' :: inner ++ [']'] ∧ ']' ∉ inner

/-- **A written address reads back with its port.** -/
theorem read?_written (is_host : IsHost host) (port : Port) :
    ∃ canonical, read? (host ++ ':' :: Numeral.render port.number) = some ⟨canonical, port⟩ := by
  rcases is_host with unbracketed | ⟨inner, rfl, unclosed⟩
  · rw [read?_plain unbracketed (Numeral.not_mem_render (by decide) _), Port.read?_render]
    exact ⟨_, rfl⟩
  · rw [List.append_assoc, List.singleton_append, read?_bracketed unclosed, Port.read?_render]
    exact ⟨_, rfl⟩

/-- A spelling is a host, a colon and a numeral, which holds none. -/
theorem Spelled.exists_host (spelled : Spelled address text) :
    ∃ host numeral, text = host ++ ':' :: numeral ∧ IsHost host ∧ ':' ∉ numeral := by
  cases spelled with
  | everyInterface unspecified port_spelled =>
    exact ⟨_, _, rfl, .inl (unbracketed_of_unspecified unspecified), Port.no_colon_of_spelled port_spelled⟩
  | plain _ unbracketed port_spelled =>
    exact ⟨_, _, rfl, .inl unbracketed, Port.no_colon_of_spelled port_spelled⟩
  | @bracketed inner numeral _ unclosed port_spelled =>
    refine ⟨'[' :: inner ++ [']'], numeral, ?_, .inr ⟨inner, rfl, unclosed⟩, Port.no_colon_of_spelled port_spelled⟩
    rw [List.append_assoc, List.singleton_append]

/-- **Nothing else reads before a number**: behind the bracket that closes a host only the colon before the number can
stand. -/
theorem isHost_of_read? {n : Nat} {address : SocketAddress}
    (reads : read? (host ++ ':' :: Numeral.render n) = some address) : IsHost host := by
  obtain ⟨host', numeral, same, is_host, no_colon⟩ := (spelled_of_read? reads).exists_host
  -- both are what stands before the last colon
  have parts : Text.splitLast ':' (host ++ ':' :: Numeral.render n) = some (host', numeral) := by
    rw [same, Text.splitLast_append no_colon]
  rw [Text.splitLast_append (Numeral.not_mem_render (by decide) n)] at parts
  obtain ⟨rfl, -⟩ := Prod.mk.inj (Option.some.inj parts)
  exact is_host

theorem hasPort_written (is_host : IsHost host) (port asked : Port) :
    hasPort asked (host ++ ':' :: Numeral.render port.number) = decide (port = asked) := by
  obtain ⟨canonical, reads⟩ := read?_written is_host port
  rw [hasPort, reads]
  rfl

end SocketAddress

end PortRelease
