import PortRelease.Proofs.Json.Fields
import PortRelease.Proofs.Json.Layout
import PortRelease.Proofs.Text.Utf8
import PortRelease.Settings.Store
/-!
# Settings that are given in part

A file holds a JSON object, in whatever layout and with whatever else in it, and gives some of the settings
(`Partial.GivenBy`). Then exactly these are loaded, the rest are the defaults, and the result is valid or refused
(`load_partial_record`). A setting that is given twice is refused too, rather than one of the two values chosen.
-/

namespace PortRelease

/-- A path leads to a file with this text. -/
def Disk.Holds (disk : Disk) (path : Path) (text : Text) : Prop :=
  ∃ place, disk.find path = .ok (place, .file (Utf8.encode text))

namespace Settings

variable {path : Path} {disk : Disk} {text : Text} {j j' : Json} {members : List (Json.Literal × Json)}
  {settings : Settings}

/-! ## What is given -/

/-- Settings of which any may be missing. -/
structure Partial where
  pollInterval : Option UInt64
  timeout : Option UInt64
  longTimeout : Option UInt64
  connectTimeout : Option UInt64
  host : Option String

namespace Partial

variable {given : Partial}

/-- The settings that are given, and the default for each that is not. -/
def completed (given : Partial) : Settings where
  pollInterval := given.pollInterval.getD default.pollInterval
  timeout := given.timeout.getD default.timeout
  longTimeout := given.longTimeout.getD default.longTimeout
  connectTimeout := given.connectTimeout.getD default.connectTimeout
  host := given.host.getD default.host

/-- **The members of an object give these settings**: each setting is one member with its value, or none. The members of
other names may be anything, as long as their names are texts. -/
structure GivenBy (given : Partial) (members : List (Json.Literal × Json)) : Prop where
  named : Json.Named members
  pollInterval : Json.valuesOf "pollIntervalMs".toList members = (given.pollInterval.map timeToJson).toList
  timeout : Json.valuesOf "timeoutMs".toList members = (given.timeout.map timeToJson).toList
  longTimeout : Json.valuesOf "longTimeoutMs".toList members = (given.longTimeout.map timeToJson).toList
  connectTimeout : Json.valuesOf "connectTimeoutMs".toList members = (given.connectTimeout.map timeToJson).toList
  host : Json.valuesOf "host".toList members = (given.host.map .ofString).toList

/-- The fields of an object that gives some settings. -/
theorem GivenBy.fields?_eq (gives : given.GivenBy members) :
    Json.fields? fieldNames (.object members) =
      some [given.pollInterval.map timeToJson, given.timeout.map timeToJson, given.longTimeout.map timeToJson,
        given.connectTimeout.map timeToJson, given.host.map .ofString] := by
  rw [Json.fields?_object gives.named]
  simp only [fieldNames, List.mapM_cons, List.mapM_nil, gives.pollInterval, gives.timeout, gives.longTimeout,
    gives.connectTimeout, gives.host, Json.atMostOne?_toList]
  rfl

theorem timeOfJson?_map (standard : UInt64) (time : Option UInt64) :
    timeOfJson? standard (time.map timeToJson) = some (time.getD standard) := by
  cases time with
  | none => rfl
  | some time => exact timeOfJson?_timeToJson standard time

theorem hostOfJson?_map (standard : String) (host : Option String) :
    hostOfJson? standard (host.map .ofString) = some (host.getD standard) := by
  cases host with
  | none => rfl
  | some host => simp [hostOfJson?, Json.ofString, Json.text?]

/-- **They are read, and the rest are the defaults.** -/
theorem GivenBy.ofJson?_eq (gives : given.GivenBy members) : ofJson? (.object members) = some given.completed := by
  simp only [Settings.ofJson?, gives.fields?_eq, timeOfJson?_map, hostOfJson?_map, completed, Option.bind_eq_bind,
    Option.bind_some, Option.pure_def]

end Partial

/-! ## What is read -/

/-- Reading looks at the fields only. -/
theorem ofJson?_congr (same : j.fields? fieldNames = j'.fields? fieldNames) : ofJson? j = ofJson? j' := by
  rw [ofJson?, ofJson?, same]

theorem ofJson?_of_no_fields (refused : j.fields? fieldNames = none) : ofJson? j = none := by
  rw [ofJson?, refused]
  rfl

theorem load_of_holds (holds : disk.Holds path text) : load path disk = parseValid text := by
  obtain ⟨place, found⟩ := holds
  simp [load, Disk.present, Disk.read, found, Utf8.decode_encode]

theorem parseValid_of_read (read : (Json.read? text).bind ofJson? = some settings) :
    parseValid text = match settings.broken? with
      | none => .ok settings
      | some rule => .error (.settings rule.message) := by
  have parsed : parse text = .ok settings := by
    rw [parse, read]
  rw [parseValid, parsed]
  change (do settings.validate; return settings) = _
  rw [validate]
  cases settings.broken? with
  | none => rfl
  | some rule => rfl

theorem parseValid_of_unread (unread : (Json.read? text).bind ofJson? = none) :
    parseValid text = .error (.settings "Failed to parse config: ...") := by
  have parsed : parse text = .error (.settings "Failed to parse config: ...") := by
    rw [parse, unread]
  rw [parseValid, parsed]
  rfl

/-- The text is looked at only through what it is read as. -/
theorem parseValid_congr {text' : Text}
    (same : (Json.read? text).bind ofJson? = (Json.read? text').bind ofJson?) : parseValid text = parseValid text' := by
  rw [parseValid, parseValid, parse, parse, same]

/-- **Settings that a text is parsed as are valid.** -/
theorem valid_of_parseValid (parsed : parseValid text = .ok settings) : settings.Valid := by
  cases read : (Json.read? text).bind ofJson? with
  | none =>
    rw [parseValid_of_unread read] at parsed
    cases parsed
  | some found =>
    rw [parseValid_of_read read] at parsed
    split at parsed
    next kept =>
      cases parsed
      exact kept
    next => cases parsed

/-- **So are loaded settings**, whatever is on the disk. -/
theorem valid_of_load (loaded : load path disk = .ok settings) : settings.Valid := by
  unfold load at loaded
  split at loaded
  · split at loaded
    · exact valid_of_parseValid loaded
    · cases loaded
  · cases loaded
    decide

/-! ## What is loaded -/

theorem read?_bind_of_document (document : Json.Document j text) : (Json.read? text).bind ofJson? = ofJson? j := by
  rw [Json.read?_of_document document, Option.bind_some]

end Settings

/-- **What a file that holds an object is loaded as.** The settings it gives, with the default for each that it does not
give, are loaded if they are valid, and otherwise the first rule they break is reported. Two files with the same members
of the settings' names, in whatever order, with whatever space and among whatever other members, are loaded alike. A
setting that is given more than once is an error. And whatever the path leads to, what is loaded is valid. -/
theorem Settings.load_partial_record (path : Path) (disk : Disk) :
    (∀ members text, Json.Document (.object members) text → disk.Holds path text →
      (∀ given : Partial, given.GivenBy members →
        load path disk = match given.completed.broken? with
          | none => .ok given.completed
          | some rule => .error (.settings rule.message)) ∧
      (∀ others text' path' disk', Json.Document (.object others) text' → Disk.Holds disk' path' text' →
        Json.Named members → Json.Named others →
        (Json.membersOf fieldNames members).Perm (Json.membersOf fieldNames others) →
        load path disk = load path' disk') ∧
      ∀ name ∈ fieldNames, 2 ≤ (Json.valuesOf name members).length →
        load path disk = .error (.settings "Failed to parse config: ...")) ∧
    ∀ settings, load path disk = .ok settings → settings.Valid := by
  refine ⟨fun members text document holds => ⟨?_, ?_, ?_⟩, fun settings => valid_of_load⟩
  · intro given gives
    have read : (Json.read? text).bind ofJson? = some given.completed := by
      rw [read?_bind_of_document document, gives.ofJson?_eq]
    rw [load_of_holds holds, parseValid_of_read read]
  · intro others text' path' disk' document' holds' named named' perm
    have alike : ofJson? (.object members) = ofJson? (.object others) :=
      ofJson?_congr (Json.fields?_of_perm named named' perm)
    rw [load_of_holds holds, load_of_holds holds']
    refine parseValid_congr ?_
    rw [read?_bind_of_document document, read?_bind_of_document document', alike]
  · intro name known two
    have unread : (Json.read? text).bind ofJson? = none := by
      rw [read?_bind_of_document document, ofJson?_of_no_fields (Json.fields?_of_two known two)]
    rw [load_of_holds holds, parseValid_of_unread unread]

/-- A file that gives two settings behind an unknown member with more objects in it, one with the same two in the other
order and nothing else, and one that gives the host twice. -/
theorem Settings.two_settings_loaded :
    let members : List (Json.Literal × Json) :=
      [(some "extra".toList, .array [.object [(some "host".toList, .null)]]), (some "host".toList, .ofString "h"),
        (some "timeoutMs".toList, .ofNat 0)]
    let reordered : List (Json.Literal × Json) :=
      [(some "timeoutMs".toList, .ofNat 0), (some "host".toList, .ofString "h")]
    let repeated : List (Json.Literal × Json) :=
      [(some "host".toList, .ofString "h"), (some "host".toList, .ofString "h")]
    let text : Text := " \x7b\"extra\" : [\x7b\"host\":null\x7d] ,\n\"host\":\"h\", \"timeoutMs\":0 \x7d\n".toList
    let reorderedText : Text := "\x7b\"timeoutMs\":0,\"host\":\"h\"\x7d".toList
    let repeatedText : Text := "\x7b\"host\":\"h\",\"host\":\"h\"\x7d".toList
    let path : Path := "c.json".toList
    let disk (text : Text) : Disk := ⟨[(["c.json".toList], .file (Utf8.encode text))], [], [], .sound⟩
    (Json.Document (.object members) text ∧ Json.Document (.object reordered) reorderedText ∧
      Json.Document (.object repeated) repeatedText) ∧
    load path (disk text) = .ok ⟨250, 0, 60000, 500, "h"⟩ ∧
      load path (disk text) = load path (disk reorderedText) ∧
      load path (disk repeatedText) = .error (.settings "Failed to parse config: ...") ∧
      Valid ⟨250, 0, 60000, 500, "h"⟩ := by
  intro members reordered repeated text reorderedText repeatedText path disk
  have nothing : Json.Space [] := Json.space_nil
  have blank : Json.Space [' '] := by decide
  have feed : Json.Space ['\n'] := by decide
  have named := Json.partsSpelled_escape
  have host := Json.spelled_string (some "h".toList)
  have timeout := Json.spelled_ofNat 0
  have document : Json.Document (.object members) text := by
    have inner := Json.Spelled.object (.lastMember nothing (named "host".toList) nothing nothing .null nothing)
    have extra := Json.Spelled.array (.lastItem nothing inner nothing)
    have whole := Json.Spelled.object (.member nothing (named "extra".toList) blank blank extra blank
      (.member feed (named "host".toList) nothing nothing host nothing
        (.lastMember blank (named "timeoutMs".toList) nothing nothing timeout blank)))
    simp only [Json.denoted_writtenParts] at whole
    exact ⟨[' '], _, ['\n'], blank, whole, feed, by decide +kernel⟩
  have reorderedDocument : Json.Document (.object reordered) reorderedText := by
    have whole := Json.Spelled.object (.member nothing (named "timeoutMs".toList) nothing nothing timeout nothing
      (.lastMember nothing (named "host".toList) nothing nothing host nothing))
    simp only [Json.denoted_writtenParts] at whole
    exact ⟨[], _, [], nothing, whole, nothing, by decide +kernel⟩
  have repeatedDocument : Json.Document (.object repeated) repeatedText := by
    have whole := Json.Spelled.object (.member nothing (named "host".toList) nothing nothing host nothing
      (.lastMember nothing (named "host".toList) nothing nothing host nothing))
    simp only [Json.denoted_writtenParts] at whole
    exact ⟨[], _, [], nothing, whole, nothing, by decide +kernel⟩
  have holds (text : Text) : (disk text).Holds path text := ⟨["c.json".toList], rfl⟩
  have gives : Partial.GivenBy ⟨none, some 0, none, none, some "h"⟩ members :=
    ⟨by decide, rfl, rfl, rfl, rfl, rfl⟩
  have perm : (Json.membersOf fieldNames members).Perm (Json.membersOf fieldNames reordered) := List.Perm.swap _ _ []
  obtain ⟨loads, valid⟩ := load_partial_record path (disk text)
  obtain ⟨completed, alike, -⟩ := loads members text document (holds text)
  have loaded := completed _ gives
  obtain ⟨-, -, refused⟩ := (load_partial_record path (disk repeatedText)).1 repeated repeatedText repeatedDocument
    (holds repeatedText)
  exact ⟨⟨document, reorderedDocument, repeatedDocument⟩, loaded,
    alike reordered reorderedText path _ reorderedDocument (holds reorderedText) (by decide) (by decide) perm,
    refused "host".toList (by decide) (by decide), valid _ loaded⟩

end PortRelease
