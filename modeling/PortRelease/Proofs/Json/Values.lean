import Mathlib.Data.Nat.Digits.Defs
import PortRelease.Port.Json
import PortRelease.Proofs.Json.Accepted
import PortRelease.Proofs.Json.Layout
/-!
# Process ids, modes, bindings and lookups as JSON

Each of the four readers accepts exactly the JSON that gives a value of its type (`DomainValue.ofJson?_eq_some_iff`): a
record in any order of its members and among members of other names, or an array. A number stands for a port or a
process only if it is spelled as a natural one, so what is no process id is refused at every place where one stands
(`PidAt`), and what is written is among what is accepted.
-/

namespace PortRelease

/-! ## Numbers -/

namespace Json

/-- The number that a value is, if it is spelled as a natural one. -/
def nat? : Json → Option Nat
  | .number n => n.toNat?
  | _ => none

@[simp] theorem nat?_ofNat (n : Nat) : nat? (ofNat n) = some n := Number.toNat?_ofNat n

theorem natBelow?_eq_some_iff {limit n : Nat} {j : Json} :
    j.natBelow? limit = some n ↔ j.nat? = some n ∧ n < limit := by
  cases j with
  | number => simp [natBelow?, nat?, Option.filter_eq_some_iff]
  | null | bool | string | array | object => simp [natBelow?, nat?]

/-- A number of at most twenty digits is far within the range of binary64. -/
theorem Number.inRange_ofNat {n : Nat} (small : n < 10 ^ 20) : (Number.ofNat n).inRange = true := by
  have digits : (Number.ofNat n).significant.length ≤ 20 := by
    have all : (Number.ofNat n).significant.length ≤ (Nat.toDigits 10 n ++ []).length :=
      (List.dropWhile_sublist _).length_le
    rw [List.append_nil] at all
    exact all.trans (Nat.toDigits_length 10 n 20 (by decide) small)
  have scale : (Number.ofNat n).scale = 0 := rfl
  have few : ((Number.ofNat n).significant.length : Int) + (Number.ofNat n).scale < 309 := by
    rw [scale]
    omega
  exact if_pos (.inr few)

end Json

variable {j : Json} {text : Text} {members : List (Json.Literal × Json)}

/-- What is made of a number below a limit, where each value is made of a number of its own, is read from that number. -/
theorem Json.natBelow?_bind_eq_some_iff {α : Type} {ofNat? : Nat → Option α} {number : α → Nat} {limit : Nat} {a : α}
    (number_of_ofNat? : ∀ {n a}, ofNat? n = some a → number a = n) (ofNat?_number : ∀ a, ofNat? (number a) = some a)
    (bound : number a < limit) : (j.natBelow? limit).bind ofNat? = some a ↔ j.nat? = some (number a) := by
  rw [Option.bind_eq_some_iff]
  constructor
  · rintro ⟨n, read, made⟩
    rw [number_of_ofNat? made]
    exact (natBelow?_eq_some_iff.mp read).1
  · intro spelled
    exact ⟨number a, natBelow?_eq_some_iff.mpr ⟨spelled, bound⟩, ofNat?_number a⟩

/-- **A process id is read from its number and from nothing else.** -/
theorem ProcessId.ofJson?_eq_some_iff {pid : ProcessId} : ofJson? j = some pid ↔ j.nat? = some pid.number :=
  Json.natBelow?_bind_eq_some_iff number_of_ofNat? ofNat?_number (Nat.lt_of_le_of_lt pid.number_le (by decide))

/-- **And so is a port.** -/
theorem Port.ofJson?_eq_some_iff {port : Port} : ofJson? j = some port ↔ j.nat? = some port.number :=
  Json.natBelow?_bind_eq_some_iff number_of_ofNat? ofNat?_number port.number_lt

/-! ## Modes -/

/-- JSON that says a mode. -/
def Mode.GivenBy (mode : Mode) (j : Json) : Prop :=
  j = .ofString mode.name ∨ j = .record [(mode.name, .null)]

theorem Mode.ofName?_eq_some_iff {mode : Mode} {word : Text} : ofName? word = some mode ↔ word = mode.name.toList := by
  constructor
  · intro named
    unfold ofName? at named
    split at named
    · cases named
      assumption
    · split at named
      · cases named
        assumption
      · cases named
  · rintro rfl
    exact ofName?_name mode

theorem Mode.ofJson?_eq_some_iff {mode : Mode} : ofJson? j = some mode ↔ mode.GivenBy j := by
  constructor
  · intro read
    unfold ofJson? at read
    split at read
    · rw [ofName?_eq_some_iff] at read
      exact .inl (by rw [read]; rfl)
    · rw [ofName?_eq_some_iff] at read
      exact .inr (by rw [read]; rfl)
    · cases read
  · rintro (rfl | rfl)
    · exact ofName?_name mode
    · exact ofName?_name mode

/-! ## Bindings -/

namespace Binding

variable {binding : Binding}

/-- **JSON that gives a binding**: each of the port and the process id is one member, among any members of other names,
or they are the two items of an array. -/
inductive GivenBy (binding : Binding) : Json → Prop
  | record {members : List (Json.Literal × Json)} {port pid : Json} (named : Json.Named members)
    (port_member : Json.valuesOf "port".toList members = [port])
    (pid_member : Json.valuesOf "pid".toList members = [pid]) (port_spelled : port.nat? = some binding.port.number)
    (pid_spelled : pid.nat? = some binding.pid.number) : GivenBy binding (.object members)
  | array {port pid : Json} (port_spelled : port.nat? = some binding.port.number)
    (pid_spelled : pid.nat? = some binding.pid.number) : GivenBy binding (.array [port, pid])

/-- Two fields are found, and read. -/
theorem ofJson?_eq_some_iff_fields :
    ofJson? j = some binding ↔ ∃ port pid, j.fields? ["port".toList, "pid".toList] = some [some port, some pid] ∧
      Port.ofJson? port = some binding.port ∧ ProcessId.ofJson? pid = some binding.pid := by
  constructor
  · intro read
    obtain ⟨fields, found, read⟩ := Option.bind_eq_some_iff.mp read
    split at read
    next port pid =>
      obtain ⟨port', read_port, read⟩ := Option.bind_eq_some_iff.mp read
      obtain ⟨pid', read_pid, made⟩ := Option.bind_eq_some_iff.mp read
      cases made
      exact ⟨port, pid, found, read_port, read_pid⟩
    next => cases read
  · rintro ⟨port, pid, found, read_port, read_pid⟩
    rw [ofJson?, found]
    simp [read_port, read_pid]

theorem ofJson?_eq_some_iff : ofJson? j = some binding ↔ binding.GivenBy j := by
  rw [ofJson?_eq_some_iff_fields]
  constructor
  · rintro ⟨port, pid, found, read_port, read_pid⟩
    rw [Port.ofJson?_eq_some_iff] at read_port
    rw [ProcessId.ofJson?_eq_some_iff] at read_pid
    rcases Json.fields?_pair.mp found with ⟨members, rfl, named, port_member, pid_member⟩ | rfl
    · exact .record named port_member pid_member read_port read_pid
    · exact .array read_port read_pid
  · intro gives
    cases gives with
    | @record members port pid named port_member pid_member port_spelled pid_spelled =>
      exact ⟨port, pid, Json.fields?_pair.mpr (.inl ⟨members, rfl, named, port_member, pid_member⟩),
        Port.ofJson?_eq_some_iff.mpr port_spelled, ProcessId.ofJson?_eq_some_iff.mpr pid_spelled⟩
    | @array port pid port_spelled pid_spelled =>
      exact ⟨port, pid, Json.fields?_pair.mpr (.inr rfl), Port.ofJson?_eq_some_iff.mpr port_spelled,
        ProcessId.ofJson?_eq_some_iff.mpr pid_spelled⟩

/-- The members of a further name have no say. -/
theorem givenBy_filter_ne {other : Text} (no_port : "port".toList ≠ other) (no_pid : "pid".toList ≠ other) :
    binding.GivenBy (.object (members.filter fun member => !(member.1 == some other))) ↔
      binding.GivenBy (.object members) := by
  constructor
  · intro gives
    cases gives with
    | record named port_member pid_member port_spelled pid_spelled =>
      rw [Json.valuesOf_filter_ne no_port] at port_member
      rw [Json.valuesOf_filter_ne no_pid] at pid_member
      exact .record (Json.named_filter_ne.mp named) port_member pid_member port_spelled pid_spelled
  · intro gives
    cases gives with
    | record named port_member pid_member port_spelled pid_spelled =>
      rw [← Json.valuesOf_filter_ne no_port] at port_member
      rw [← Json.valuesOf_filter_ne no_pid] at pid_member
      exact .record (Json.named_filter_ne.mpr named) port_member pid_member port_spelled pid_spelled

theorem givenBy_toJson (binding : Binding) : binding.GivenBy binding.toJson :=
  .record (Json.named_record _) rfl rfl (Json.nat?_ofNat _) (Json.nat?_ofNat _)

end Binding

/-! ## Lookups -/

namespace Lookup

variable {lookup : Lookup} {binding : Binding} {status : Text} {rest : Json}

/-- **JSON that gives a lookup**: its status is one member of a record, wherever it stands, or the first item of an
array; where the status is `found`, the rest gives the binding. Whatever stands beside them must be storable. -/
inductive GivenBy : Lookup → Json → Prop
  | found {binding : Binding} {members : List (Json.Literal × Json)} (storable : (Json.object members).storable = true)
    (status : Json.valuesOf "status".toList members = [.ofString "found"]) (gives : binding.GivenBy (.object members)) :
    GivenBy (.found binding) (.object members)
  | foundArray {binding : Binding} {items : List Json}
    (storable : (Json.array (.ofString "found" :: items)).storable = true) (gives : binding.GivenBy (.array items)) :
    GivenBy (.found binding) (.array (.ofString "found" :: items))
  | notFound {members : List (Json.Literal × Json)} (storable : (Json.object members).storable = true)
    (status : Json.valuesOf "status".toList members = [.ofString "notFound"]) : GivenBy .notFound (.object members)
  | notFoundArray : GivenBy .notFound (.array [.ofString "notFound"])

theorem status?_eq_some_iff :
    status? j = some (status, rest) ↔
      (∃ members, j = .object members ∧ Json.valuesOf "status".toList members = [.string (some status)] ∧
        rest = .object (members.filter fun member => !(member.1 == some "status".toList))) ∨
      ∃ items, j = .array (.string (some status) :: items) ∧ rest = .array items := by
  constructor
  · intro found
    unfold status? at found
    split at found
    next members =>
      rw [List.partition_eq_filter_filter] at found
      split at found
      next name tag others parted =>
        cases found
        obtain ⟨tagged, rfl⟩ := Prod.mk.inj parted
        exact .inl ⟨members, rfl, by rw [Json.valuesOf, tagged]; rfl, rfl⟩
      next => cases found
    next items =>
      cases found
      exact .inr ⟨items, rfl, rfl⟩
    next => cases found
  · rintro (⟨members, rfl, tagged, rfl⟩ | ⟨items, rfl, rfl⟩)
    · obtain ⟨⟨name, value⟩, only, rfl⟩ := List.map_eq_singleton_iff.mp tagged
      rw [status?, List.partition_eq_filter_filter, only]
      rfl
    · rfl

theorem ofStatus?_eq_found_iff :
    ofStatus? status rest = some (.found binding) ↔ status = "found".toList ∧ binding.GivenBy rest := by
  rw [← Binding.ofJson?_eq_some_iff]
  constructor
  · intro read
    unfold ofStatus? at read
    split at read
    next is_found =>
      obtain ⟨owner, read_owner, same⟩ := Option.map_eq_some_iff.mp read
      cases same
      exact ⟨is_found, read_owner⟩
    next =>
      split at read
      next => split at read <;> cases read
      next => cases read
  · rintro ⟨rfl, read_owner⟩
    unfold ofStatus?
    rw [if_pos rfl, read_owner, Option.map_some]

theorem ofStatus?_eq_notFound_iff :
    ofStatus? status rest = some .notFound ↔
      status = "notFound".toList ∧ ∀ item items, rest ≠ .array (item :: items) := by
  constructor
  · intro read
    unfold ofStatus? at read
    split at read
    next =>
      obtain ⟨owner, -, other⟩ := Option.map_eq_some_iff.mp read
      cases other
    next =>
      split at read
      next is_free =>
        split at read
        next => cases read
        next alone => exact ⟨is_free, fun item items => alone item items⟩
      next => cases read
  · rintro ⟨rfl, alone⟩
    unfold ofStatus?
    rw [if_neg (by decide), if_pos rfl]
    split
    next item items => exact absurd rfl (alone item items)
    next => rfl

theorem ofJson?_eq_some_iff : ofJson? j = some lookup ↔ lookup.GivenBy j := by
  constructor
  · intro read
    unfold ofJson? at read
    split at read
    next storable =>
      obtain ⟨⟨status, rest⟩, found, read⟩ := Option.bind_eq_some_iff.mp read
      rcases status?_eq_some_iff.mp found with ⟨members, rfl, tagged, rfl⟩ | ⟨items, rfl, rfl⟩
      · cases lookup with
        | found binding =>
          obtain ⟨rfl, gives⟩ := ofStatus?_eq_found_iff.mp read
          exact .found storable tagged ((Binding.givenBy_filter_ne (by decide) (by decide)).mp gives)
        | notFound =>
          obtain ⟨rfl, -⟩ := ofStatus?_eq_notFound_iff.mp read
          exact .notFound storable tagged
      · cases lookup with
        | found binding =>
          obtain ⟨rfl, gives⟩ := ofStatus?_eq_found_iff.mp read
          exact .foundArray storable gives
        | notFound =>
          obtain ⟨rfl, alone⟩ := ofStatus?_eq_notFound_iff.mp read
          cases items with
          | nil => exact .notFoundArray
          | cons item items => exact absurd rfl (alone item items)
    next => cases read
  · intro gives
    have read {status : Text} {rest : Json} (storable : j.storable = true) (found : status? j = some (status, rest))
        (read : ofStatus? status rest = some lookup) : ofJson? j = some lookup := by
      rw [ofJson?, if_pos storable, found, Option.bind_some]
      exact read
    cases gives with
    | found storable tagged gives =>
      exact read storable (status?_eq_some_iff.mpr (.inl ⟨_, rfl, tagged, rfl⟩))
        (ofStatus?_eq_found_iff.mpr ⟨rfl, (Binding.givenBy_filter_ne (by decide) (by decide)).mpr gives⟩)
    | foundArray storable gives => exact read storable rfl (ofStatus?_eq_found_iff.mpr ⟨rfl, gives⟩)
    | notFound storable tagged =>
      exact read storable (status?_eq_some_iff.mpr (.inl ⟨_, rfl, tagged, rfl⟩))
        (ofStatus?_eq_notFound_iff.mpr ⟨rfl, fun item items => nofun⟩)
    | notFoundArray => exact read (by decide) rfl rfl

theorem storable_toJson (lookup : Lookup) : lookup.toJson.storable = true := by
  cases lookup with
  | found binding =>
    have port := Json.Number.inRange_ofNat (Nat.lt_trans binding.port.number_lt (by decide))
    have pid := Json.Number.inRange_ofNat (Nat.lt_of_le_of_lt binding.pid.number_le (by decide))
    simp [toJson, Binding.members, Json.record, Json.storable, Json.depth, Json.depthOfMembers, Json.meaningful,
      Json.meaningfulMembers, Json.ofString, Json.ofNat, Port.toJson, ProcessId.toJson, port, pid]
  | notFound => decide

theorem givenBy_toJson (lookup : Lookup) : lookup.GivenBy lookup.toJson := by
  have storable := storable_toJson lookup
  have no_port : "port".toList ≠ "status".toList := by decide
  have no_pid : "pid".toList ≠ "status".toList := by decide
  cases lookup with
  | found binding =>
    have gives : binding.GivenBy (.record (("status", .ofString "found") :: binding.members)) :=
      (Binding.givenBy_filter_ne no_port no_pid).mp binding.givenBy_toJson
    exact .found storable rfl gives
  | notFound => exact .notFound storable rfl

end Lookup

/-! ## The four types -/

/-- The types of the values that are exchanged as JSON. -/
inductive DomainKind where
  | processId
  | mode
  | binding
  | lookup
  deriving DecidableEq

/-- A value of one of these types. -/
inductive DomainValue where
  | processId (pid : ProcessId)
  | mode (how : Mode)
  | binding (owner : Binding)
  | lookup (answer : Lookup)
  deriving DecidableEq

namespace DomainValue

/-- The type of a value. -/
def kind : DomainValue → DomainKind
  | .processId _ => .processId
  | .mode _ => .mode
  | .binding _ => .binding
  | .lookup _ => .lookup

/-- A value as JSON. -/
def toJson : DomainValue → Json
  | .processId pid => pid.toJson
  | .mode how => how.toJson
  | .binding owner => owner.toJson
  | .lookup answer => answer.toJson

/-- The bindings in a value. -/
def bindings : DomainValue → List Binding
  | .binding owner => [owner]
  | .lookup (.found owner) => [owner]
  | _ => []

/-- The process ids in a value. -/
def pids : DomainValue → List ProcessId
  | .processId pid => [pid]
  | value => value.bindings.map Binding.pid

/-- The ports in a value. -/
def ports (value : DomainValue) : List Port := value.bindings.map Binding.port

/-- Reads a value of a type. -/
def ofJson? (kind : DomainKind) (j : Json) : Option DomainValue :=
  match kind with
  | .processId => (ProcessId.ofJson? j).map .processId
  | .mode => (Mode.ofJson? j).map .mode
  | .binding => (Binding.ofJson? j).map .binding
  | .lookup => (Lookup.ofJson? j).map .lookup

/-- Reads a value of a type from a text. -/
def read? (kind : DomainKind) (text : Text) : Option DomainValue := (Json.read? text).bind (ofJson? kind)

/-- **JSON that gives a value.** -/
def GivenBy (value : DomainValue) (j : Json) : Prop :=
  match value with
  | .processId pid => j.nat? = some pid.number
  | .mode how => how.GivenBy j
  | .binding owner => owner.GivenBy j
  | .lookup answer => answer.GivenBy j

variable {value : DomainValue} {kind : DomainKind}

/-- **What gives a value is read as that value, and nothing else is.** -/
theorem ofJson?_eq_some_iff : ofJson? kind j = some value ↔ value.kind = kind ∧ value.GivenBy j := by
  cases kind with
  | processId =>
    cases value with
    | processId pid => simpa [ofJson?, DomainValue.kind, GivenBy] using ProcessId.ofJson?_eq_some_iff
    | mode | binding | lookup => simp [ofJson?, DomainValue.kind]
  | mode =>
    cases value with
    | mode how => simpa [ofJson?, DomainValue.kind, GivenBy] using Mode.ofJson?_eq_some_iff
    | processId | binding | lookup => simp [ofJson?, DomainValue.kind]
  | binding =>
    cases value with
    | binding owner => simpa [ofJson?, DomainValue.kind, GivenBy] using Binding.ofJson?_eq_some_iff
    | processId | mode | lookup => simp [ofJson?, DomainValue.kind]
  | lookup =>
    cases value with
    | lookup answer => simpa [ofJson?, DomainValue.kind, GivenBy] using Lookup.ofJson?_eq_some_iff
    | processId | mode | binding => simp [ofJson?, DomainValue.kind]

theorem givenBy_toJson (value : DomainValue) : value.GivenBy value.toJson := by
  cases value with
  | processId pid => exact Json.nat?_ofNat pid.number
  | mode how => exact .inl rfl
  | binding owner => exact owner.givenBy_toJson
  | lookup answer => exact answer.givenBy_toJson

end DomainValue

/-! ## Places of process ids -/

/-- **Where a process id stands in the JSON of a type**: it is the whole; it is a member `pid`, or behind the port in an
array; and the same of a lookup that says it is found. -/
inductive PidAt : DomainKind → Json → Json → Prop
  | whole {pid : Json} : PidAt .processId pid pid
  | member {members : List (Json.Literal × Json)} {pid : Json} (mem : (some "pid".toList, pid) ∈ members) :
    PidAt .binding (.object members) pid
  | item {port pid : Json} {more : List Json} : PidAt .binding (.array (port :: pid :: more)) pid
  | foundMember {members : List (Json.Literal × Json)} {pid : Json}
    (found : (some "status".toList, .ofString "found") ∈ members) (mem : (some "pid".toList, pid) ∈ members) :
    PidAt .lookup (.object members) pid
  | foundItem {port pid : Json} {more : List Json} :
    PidAt .lookup (.array (.ofString "found" :: port :: pid :: more)) pid

/-- In JSON that gives a binding, every member `pid` is the process id. -/
theorem Binding.GivenBy.nat?_of_member {binding : Binding} {pid : Json} (gives : binding.GivenBy (.object members))
    (mem : (some "pid".toList, pid) ∈ members) : pid.nat? = some binding.pid.number := by
  cases gives with
  | record named port_member pid_member port_spelled pid_spelled =>
    have known := Json.mem_valuesOf.mpr mem
    rw [pid_member, List.mem_singleton] at known
    rwa [known]

/-- And so is the item behind the port. -/
theorem Binding.GivenBy.nat?_of_item {binding : Binding} {port pid : Json} {more : List Json}
    (gives : binding.GivenBy (.array (port :: pid :: more))) : pid.nat? = some binding.pid.number := by
  cases gives with
  | array port_spelled pid_spelled => exact pid_spelled

/-- **Wherever a process id stands in JSON that is accepted, it is one in the value.** -/
theorem DomainValue.GivenBy.mem_pids {value : DomainValue} {pid : Json} (gives : value.GivenBy j)
    (place : PidAt value.kind j pid) : ∃ known ∈ value.pids, pid.nat? = some known.number := by
  cases value with
  | processId known =>
    cases place with
    | whole => exact ⟨known, List.mem_singleton_self known, gives⟩
  | mode how => cases place
  | binding owner =>
    cases place with
    | member mem => exact ⟨owner.pid, List.mem_singleton_self owner.pid, Binding.GivenBy.nat?_of_member gives mem⟩
    | item => exact ⟨owner.pid, List.mem_singleton_self owner.pid, Binding.GivenBy.nat?_of_item gives⟩
  | lookup answer =>
    cases place with
    | foundMember found mem =>
      cases gives with
      | @found owner _ storable tagged gives =>
        exact ⟨owner.pid, List.mem_singleton_self owner.pid, gives.nat?_of_member mem⟩
      | notFound storable tagged =>
        have known := Json.mem_valuesOf.mpr found
        rw [tagged] at known
        cases List.mem_singleton.mp known
    | foundItem =>
      cases gives with
      | @foundArray owner _ storable gives =>
        exact ⟨owner.pid, List.mem_singleton_self owner.pid, gives.nat?_of_item⟩

/-! ## Texts -/

/-- A record of numbers and strings spells itself in both layouts. -/
theorem Json.spelled_flat {members : List (String × Json)}
    (flat : ∀ member ∈ members, (∃ n, member.2 = .ofNat n) ∨ ∃ s, member.2 = .ofString s) :
    Spelled (.value (record members)) (record members).compact ∧
      Spelled (.value (record members)) (record members).indented := by
  constructor
  · refine spelled_compact_object fun member mem => ?_
    obtain ⟨⟨name, value⟩, known, rfl⟩ := List.mem_map.mp mem
    obtain ⟨n, rfl⟩ | ⟨s, rfl⟩ := flat _ known
    · exact spelled_ofNat n
    · exact spelled_string (some s.toList)
  · refine spelled_object fun member mem => ?_
    obtain ⟨⟨name, value⟩, known, rfl⟩ := List.mem_map.mp mem
    obtain ⟨n, rfl⟩ | ⟨s, rfl⟩ := flat _ known
    · exact spelled_ofNat n
    · exact spelled_string (some s.toList)

theorem Binding.members_flat (binding : Binding) :
    ∀ member ∈ binding.members, (∃ n, member.2 = .ofNat n) ∨ ∃ s, member.2 = .ofString s := by
  simp only [members, List.forall_mem_cons]
  exact ⟨.inl ⟨binding.port.number, rfl⟩, .inl ⟨binding.pid.number, rfl⟩, nofun⟩

namespace DomainValue

variable {value : DomainValue} {kind : DomainKind}

/-- Both layouts of a value spell it. -/
theorem spelled_toJson (value : DomainValue) :
    Json.Spelled (.value value.toJson) value.toJson.compact ∧
      Json.Spelled (.value value.toJson) value.toJson.indented := by
  have status (s : String) : (∃ n, Json.ofString s = .ofNat n) ∨ ∃ t, Json.ofString s = .ofString t :=
    .inr ⟨s, rfl⟩
  cases value with
  | processId pid => exact ⟨Json.spelled_ofNat pid.number, Json.spelled_ofNat pid.number⟩
  | mode how => exact ⟨Json.spelled_string (some how.name.toList), Json.spelled_string (some how.name.toList)⟩
  | binding owner => exact Json.spelled_flat owner.members_flat
  | lookup answer =>
    cases answer with
    | found owner => exact Json.spelled_flat (List.forall_mem_cons.mpr ⟨status "found", owner.members_flat⟩)
    | notFound => exact Json.spelled_flat (List.forall_mem_cons.mpr ⟨status "notFound", nofun⟩)

/-- **What is read from a text is what its document gives.** -/
theorem read?_eq_some_iff :
    read? kind text = some value ↔ value.kind = kind ∧ ∃ j, Json.Document j text ∧ value.GivenBy j := by
  simp only [read?, Option.bind_eq_some_iff, Json.read?_eq_some_iff, ofJson?_eq_some_iff]
  constructor
  · rintro ⟨j, document, same, gives⟩
    exact ⟨same, j, document, gives⟩
  · rintro ⟨same, j, document, gives⟩
    exact ⟨j, document, same, gives⟩

theorem read?_of_spelled (spelled : Json.Spelled (.value value.toJson) text) : read? value.kind text = some value := by
  have document : Json.Document value.toJson text :=
    ⟨[], text, [], Json.space_nil, spelled, Json.space_nil, (List.append_nil text).symm⟩
  exact read?_eq_some_iff.mpr ⟨rfl, value.toJson, document, value.givenBy_toJson⟩

/-- What is written for a value. -/
def written (value : DomainValue) : Text := value.toJson.compact

theorem read?_written (value : DomainValue) : read? value.kind value.written = some value :=
  read?_of_spelled value.spelled_toJson.1

end DomainValue

theorem Json.Document.eq {j j' : Json} (document : Document j text) (document' : Document j' text) : j = j' :=
  Option.some.inj ((read?_of_document document).symm.trans (read?_of_document document'))

/-- **The JSON of the domain is canonical, and guards its process ids.** What is written for a value, in either layout,
is read as that value. A text is read as a value just if it is a document that gives the value. Every process id in a
value that was read is one that a process can have and every port is one, wherever a process id stands in the text it is
one of the value's, and writing the value and reading it again changes neither the value nor what is written. A document
in which something else stands where a process id does, a number that no process can have or one that is not spelled as
a natural one, is not read at all. -/
theorem domain_json_canonical :
    (∀ value : DomainValue, DomainValue.read? value.kind value.written = some value ∧
      DomainValue.read? value.kind value.toJson.indented = some value) ∧
    (∀ kind text value, DomainValue.read? kind text = some value ↔
      value.kind = kind ∧ ∃ j, Json.Document j text ∧ value.GivenBy j) ∧
    (∀ kind text value, DomainValue.read? kind text = some value →
      (∀ pid ∈ value.pids, 1 ≤ pid.number ∧ pid.number ≤ 2147483647) ∧
      (∀ port ∈ value.ports, port.number ≤ 65535) ∧
      (∀ j pid, Json.Document j text → PidAt kind j pid →
        ∃ known ∈ value.pids, pid.nat? = some known.number) ∧
      DomainValue.read? kind value.written = some value ∧
      (DomainValue.read? kind value.written).map DomainValue.written = some value.written) ∧
    ∀ kind j text pid, Json.Document j text → PidAt kind j pid →
      (∀ n, pid.nat? = some n → n = 0 ∨ 2147483647 < n) → DomainValue.read? kind text = none := by
  have guarded {kind : DomainKind} {text : Text} {value : DomainValue} {j pid : Json}
      (read : DomainValue.read? kind text = some value) (document : Json.Document j text) (place : PidAt kind j pid) :
      ∃ known ∈ value.pids, pid.nat? = some known.number := by
    obtain ⟨rfl, j', document', gives⟩ := DomainValue.read?_eq_some_iff.mp read
    obtain rfl := document.eq document'
    exact gives.mem_pids place
  refine ⟨fun value => ⟨value.read?_written, DomainValue.read?_of_spelled value.spelled_toJson.2⟩,
    fun kind text value => DomainValue.read?_eq_some_iff, fun kind text value read => ?_, ?_⟩
  · obtain ⟨rfl, -⟩ := DomainValue.read?_eq_some_iff.mp read
    refine ⟨fun pid _ => ⟨pid.number_pos, pid.number_le⟩, fun port _ => Nat.le_of_lt_succ port.number_lt,
      fun j pid document place => guarded read document place, value.read?_written, ?_⟩
    rw [value.read?_written, Option.map_some]
  · intro kind j text pid document place impossible
    refine Option.eq_none_iff_forall_not_mem.mpr fun value read => ?_
    obtain ⟨known, -, number⟩ := guarded read document place
    have positive := known.number_pos
    have bound := known.number_le
    rcases impossible known.number number with zero | large
    · omega
    · omega

/-- A lookup with its status last and an unknown member, which is read and written in its own order; and a process id
with a fraction, a binding of process 0 and a lookup of process -7, which are not read. -/
theorem domain_json_read_or_refused :
    let found : DomainValue := .lookup (.found ⟨⟨8080, by decide⟩, ⟨77, by decide, by decide⟩⟩)
    let reordered : Text := "\x7b\"pid\":77,\"more\":[null],\"port\":8080,\"status\":\"found\"\x7d".toList
    let negative : Text := "\x7b\"pid\":-7,\"status\":\"found\"\x7d".toList
    DomainValue.read? .lookup reordered = some found ∧
      found.written = "\x7b\"status\":\"found\",\"port\":8080,\"pid\":77\x7d".toList ∧
      DomainValue.read? .lookup found.written = some found ∧
      DomainValue.read? .processId "7.0".toList = none ∧
      DomainValue.read? .binding "[8080,0]".toList = none ∧ DomainValue.read? .lookup negative = none := by
  intro found reordered negative
  have nothing : Json.Space [] := Json.space_nil
  have digit (c : Char) (is_digit : c.isDigit = true) : Json.Digits [c] :=
    ⟨List.cons_ne_nil c [], List.forall_mem_singleton.mpr is_digit⟩
  have named := Json.partsSpelled_escape
  have pid := Json.spelled_ofNat 77
  have port := Json.spelled_ofNat 8080
  have status := Json.spelled_string (some "found".toList)
  have reordered_document : Json.Document (.record [("pid", .ofNat 77), ("more", .array [.null]), ("port", .ofNat 8080),
      ("status", .ofString "found")]) reordered := by
    have more := Json.Spelled.array (.lastItem nothing .null nothing)
    have whole := Json.Spelled.object (.member nothing (named "pid".toList) nothing nothing pid nothing
      (.member nothing (named "more".toList) nothing nothing more nothing
        (.member nothing (named "port".toList) nothing nothing port nothing
          (.lastMember nothing (named "status".toList) nothing nothing status nothing))))
    simp only [Json.denoted_writtenParts] at whole
    exact ⟨[], _, [], nothing, whole, nothing, by decide +kernel⟩
  have fraction_document : Json.Document (.number ⟨false, ['7'], some ['0'], none⟩) "7.0".toList := by
    have number : Json.NumberSpelled ⟨false, ['7'], some ['0'], none⟩ _ :=
      .intro (.inr ⟨digit '7' rfl, by decide⟩) (.some (digit '0' rfl)) .none
    exact ⟨[], _, [], nothing, .number number, nothing, by decide +kernel⟩
  have array_document : Json.Document (.array [.ofNat 8080, .ofNat 0]) "[8080,0]".toList := by
    have zero := Json.spelled_ofNat 0
    exact ⟨[], _, [], nothing, .array (.item nothing port nothing (.lastItem nothing zero nothing)), nothing,
      by decide +kernel⟩
  have negative_document : Json.Document (.object [(some "pid".toList, .number ⟨true, ['7'], none, none⟩),
      (some "status".toList, .ofString "found")]) negative := by
    have number : Json.NumberSpelled ⟨true, ['7'], none, none⟩ _ :=
      .intro (.inr ⟨digit '7' rfl, by decide⟩) .none .none
    have whole := Json.Spelled.object (.member nothing (named "pid".toList) nothing nothing (.number number) nothing
      (.lastMember nothing (named "status".toList) nothing nothing status nothing))
    simp only [Json.denoted_writtenParts] at whole
    exact ⟨[], _, [], nothing, whole, nothing, by decide +kernel⟩
  obtain ⟨-, accepted, again, refused⟩ := domain_json_canonical
  have read : DomainValue.read? .lookup reordered = some found :=
    (accepted .lookup reordered found).mpr ⟨rfl, _, reordered_document,
      .found (by decide) rfl (.record (by decide) rfl rfl (Json.nat?_ofNat 8080) (Json.nat?_ofNat 77))⟩
  obtain ⟨-, -, -, once_more, -⟩ := again _ _ _ read
  refine ⟨read, by decide +kernel, once_more, ?_, ?_, ?_⟩
  · exact refused .processId _ _ _ fraction_document .whole nofun
  · refine refused .binding _ _ _ array_document .item fun n zero => .inl ?_
    rw [Json.nat?_ofNat] at zero
    exact (Option.some.inj zero).symm
  · refine refused .lookup _ _ _ negative_document (.foundMember (.tail _ (.head _)) (.head _)) nofun

end PortRelease
