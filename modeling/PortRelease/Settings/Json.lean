import PortRelease.Json.Basic
import PortRelease.Settings.Basic
/-!
# Settings in JSON

A record with a member for each setting, times in milliseconds. Where it is read, a setting that is not given
has its default. Reading says nothing about validity.
-/

namespace PortRelease.Settings

/-- The names of the settings, in the order in which they are written. -/
def fieldNames : List Text :=
  ["pollIntervalMs".toList, "timeoutMs".toList, "longTimeoutMs".toList, "connectTimeoutMs".toList,
   "host".toList]

/-- A time as JSON. -/
def timeToJson (time : UInt64) : Json := .ofNat time.toNat

/-- Reads a time, which is the default if it is not given. -/
def timeOfJson? (default : UInt64) : Option Json → Option UInt64
  | some j => (j.natBelow? Numeral.limit64).map UInt64.ofNat
  | none => some default

/-- Reads the host. -/
def hostOfJson? (default : String) : Option Json → Option String
  | some j => j.text?.map String.ofList
  | none => some default

/-- Settings as JSON. -/
def toJson (s : Settings) : Json :=
  .record
    [("pollIntervalMs", timeToJson s.pollInterval), ("timeoutMs", timeToJson s.timeout),
     ("longTimeoutMs", timeToJson s.longTimeout), ("connectTimeoutMs", timeToJson s.connectTimeout),
     ("host", .ofString s.host)]

/-- **Reads settings.** -/
def ofJson? (j : Json) : Option Settings := do
  match ← j.fields? fieldNames with
  | [pollInterval, timeout, longTimeout, connectTimeout, host] =>
    return {
      pollInterval := ← timeOfJson? default.pollInterval pollInterval
      timeout := ← timeOfJson? default.timeout timeout
      longTimeout := ← timeOfJson? default.longTimeout longTimeout
      connectTimeout := ← timeOfJson? default.connectTimeout connectTimeout
      host := ← hostOfJson? default.host host }
  | _ => none

theorem timeOfJson?_timeToJson (default time : UInt64) :
    timeOfJson? default (some (timeToJson time)) = some time := by
  have bound : time.toNat < Numeral.limit64 := time.toNat_lt
  rw [timeToJson, timeOfJson?, Json.natBelow?_ofNat bound, Option.map_some, UInt64.ofNat_toNat]

/-- **Written settings read back.** -/
theorem ofJson?_toJson (s : Settings) : ofJson? s.toJson = some s := by
  have fields : s.toJson.fields? fieldNames =
      some [some (timeToJson s.pollInterval), some (timeToJson s.timeout), some (timeToJson s.longTimeout),
        some (timeToJson s.connectTimeout), some (.ofString s.host)] := by
    simp [toJson, Json.record, Json.fields?, fieldNames]
  simp [ofJson?, fields, timeOfJson?_timeToJson, hostOfJson?, Json.ofString, Json.text?]

end PortRelease.Settings
