import PortRelease.Failure
import PortRelease.Wait.Basic
/-!
# Settings

The times of waits and connections, and the host whose ports are watched. Times are milliseconds in 64 bits.
Settings that are kept or used must be valid: without a pause a wait would spin, without time no connection
would be made, and a host must have a name.
-/

namespace PortRelease

/-- The settings. -/
structure Settings where
  /-- The pause between two evaluations of a condition. -/
  pollInterval : UInt64
  /-- How long an ordinary wait goes on. -/
  timeout : UInt64
  /-- How long a slow wait goes on. -/
  longTimeout : UInt64
  /-- How long one connection may take. -/
  connectTimeout : UInt64
  /-- The host whose ports are watched. -/
  host : String
  deriving DecidableEq

namespace Settings

/-- What holds where nothing is set. -/
def default : Settings := ⟨250, 30000, 60000, 500, "127.0.0.1"⟩

/-- The schedule of an ordinary wait. -/
def schedule (s : Settings) : Schedule := ⟨s.pollInterval.toNat, s.timeout.toNat, none⟩

/-- The schedule of a slow wait. -/
def longSchedule (s : Settings) : Schedule := ⟨s.pollInterval.toNat, s.longTimeout.toNat, none⟩

/-- A rule that valid settings keep. -/
inductive Rule where
  | pollIntervalPositive
  | connectTimeoutPositive
  | hostNotBlank
  deriving DecidableEq

/-- The sentence that states a rule. -/
def Rule.message : Rule → String
  | pollIntervalPositive => "pollIntervalMs must be greater than 0"
  | connectTimeoutPositive => "connectTimeoutMs must be greater than 0"
  | hostNotBlank => "host must not be empty"

/-- The first rule that the settings break. -/
def broken? (s : Settings) : Option Rule :=
  if s.pollInterval = 0 then some .pollIntervalPositive
  else if s.connectTimeout = 0 then some .connectTimeoutPositive
  else if Text.trim s.host.toList = [] then some .hostNotBlank
  else none

/-- **Whether the settings can be used.** -/
def Valid (s : Settings) : Prop := s.broken? = none

instance (s : Settings) : Decidable s.Valid := inferInstanceAs (Decidable (_ = _))

/-- The settings, if they are valid. -/
def validate (s : Settings) : Except Failure Unit :=
  match s.broken? with
  | some rule => .error (.settings rule.message)
  | none => .ok ()

end Settings

end PortRelease
