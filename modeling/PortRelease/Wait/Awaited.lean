import PortRelease.Port.Basic
import PortRelease.Wait.Basic
/-!
# What is waited for

The conditions that a wait can have, with the words that name them in reports, and those that are put together
from a collaborator: one that tells whether an address is healthy, or one that lists the registered addresses.

A registry that cannot be asked says nothing about an address: the address counts as still there.
-/

namespace PortRelease

/-- What a wait waits for. -/
inductive Awaited where
  /-- A condition that says nothing about itself. -/
  | unnamed
  /-- A condition of the caller's own, with a label if it has one. -/
  | custom (label : Option String)
  /-- All ports refuse connections on a host. -/
  | portsClosed (host : String) (ports : List Port)
  /-- An address passes its health check. -/
  | healthy (address : String)
  /-- An address fails its health check. -/
  | unhealthy (address : String)
  /-- An address is no longer registered. -/
  | removed (address : String)
  deriving DecidableEq

/-- The words for what is waited for. -/
def Awaited.description : Awaited → String
  | unnamed => "condition"
  | custom label => label.getD "custom probe"
  | portsClosed host ports => s!"ports {Port.renderList ports} on {host} to close"
  | healthy address => s!"{address} to become healthy"
  | unhealthy address => s!"{address} to stop responding"
  | removed address => s!"{address} to leave the registry"

/-- A collaborator that tells whether an address is healthy. -/
abbrev HealthCheck (σ : Type) := String → Probe σ

/-- A collaborator that lists the registered addresses; `none` if it cannot. -/
abbrev Registry (σ : Type) := Int → σ → Timed σ (Option (List String))

namespace Probe

variable {σ : Type}

/-- The address is healthy. -/
def healthy (check : HealthCheck σ) (address : String) : Probe σ := check address

/-- The address is not healthy. -/
def unhealthy (check : HealthCheck σ) (address : String) : Probe σ := (check address).not

/-- The address is not registered. -/
def removed (registry : Registry σ) (address : String) : Probe σ := fun now s =>
  let listing := registry now s
  let gone := match listing.value with
    | some addresses => !addresses.contains address
    | none => false
  ⟨gone, listing.cost, listing.state⟩

end Probe

/-- A collaborator that gives prepared answers one after another, each after its time, and the last of them
for ever; without any answer it gives `silent` at once. -/
def prepared {α : Type} (silent : α) : Int → List (α × Nat) → Timed (List (α × Nat)) α
  | _, [] => ⟨silent, 0, []⟩
  | _, [(answer, cost)] => ⟨answer, cost, [(answer, cost)]⟩
  | _, (answer, cost) :: rest => ⟨answer, cost, rest⟩

end PortRelease
