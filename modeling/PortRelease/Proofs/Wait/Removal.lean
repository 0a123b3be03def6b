import PortRelease.Proofs.Wait.Parallel
import PortRelease.Wait.Awaited
/-!
# Waiting for an address to leave a registry

What a listing says about one address is whether it is gone (`Gone`): a registry that could not be asked does not say so,
and the other addresses of a listing say nothing about this one. So a wait for its removal ends well only with a listing
that succeeded and does not have it, and two scripts of listings that agree on it entry by entry are waited for alike.

A wait on a script goes as the script says, entry by entry (`Wait.evaluation_of_prepared`); the last entry is for ever.

* `removal_takes_trouble_for_presence`: both, and that to wait for ill health is to wait for health where every answer is
  the opposite.
-/

namespace PortRelease

variable {α β σ τ : Type} {address : String}

/-- What is seen of a wait from outside: how it ended, when, and when its evaluations began. -/
def Outcome.seen (outcome : Outcome σ) : Ending × Int × List Int := (outcome.ending, outcome.finished, outcome.begun)

/-! ## Prepared answers -/

/-- The `k`-th of some prepared answers, counted from 0. -/
def heard (silent : α) (script : List (α × Nat)) (k : Nat) : α :=
  (script[min k (script.length - 1)]?.map Prod.fst).getD silent

/-- What is left of a script after `k` answers: an answer that is the last stays. -/
def leftAfter (script : List (α × Nat)) (k : Nat) : List (α × Nat) := script.drop (min k (script.length - 1))

theorem leftAfter_succ (script : List (α × Nat)) (k : Nat) :
    leftAfter (leftAfter script k) 1 = leftAfter script (k + 1) := by
  rw [leftAfter, leftAfter, leftAfter, List.drop_drop, List.length_drop]
  congr 1
  omega

theorem heard_leftAfter (silent : α) (script : List (α × Nat)) (k : Nat) :
    heard silent (leftAfter script k) 0 = heard silent script k := by
  rw [heard, heard, leftAfter, Nat.zero_min, List.getElem?_drop, Nat.add_zero]

theorem prepared_value (silent : α) (now : Int) (script : List (α × Nat)) :
    (prepared silent now script).value = heard silent script 0 := by
  match script with
  | [] => rfl
  | [_] => rfl
  | _ :: _ :: _ => rfl

theorem prepared_state (silent : α) (now : Int) (script : List (α × Nat)) :
    (prepared silent now script).state = leftAfter script 1 := by
  match script with
  | [] => rfl
  | [_] => rfl
  | _ :: next :: rest => simp [prepared, leftAfter]

/-- **The evaluations of a wait on a script find what is left of it**, one answer less each time. -/
theorem Wait.evaluation_of_prepared {probe : Probe (List (α × Nat))} (silent : α)
    (plays : ∀ now s, (probe now s).state = (prepared silent now s).state) (schedule : Schedule) (start : Int)
    (script : List (α × Nat)) (k : Nat) :
    (evaluation probe schedule start script k).state = leftAfter script k := by
  induction k with
  | zero => rw [leftAfter, Nat.zero_min, List.drop_zero]; rfl
  | succ k ih =>
    rw [evaluation_succ, ← leftAfter_succ, ← ih, ← prepared_state silent]
    exact plays _ _

/-- Two scripts that are related answer by answer, with the same costs. -/
def Told (related : α → β → Prop) (script : List (α × Nat)) (script' : List (β × Nat)) : Prop :=
  List.Forall₂ (fun entry entry' => related entry.1 entry'.1 ∧ entry.2 = entry'.2) script script'

/-- They give related answers, after the same time, and what is left of them is related. -/
theorem Told.prepared {related : α → β → Prop} {silent : α} {silent' : β} {script : List (α × Nat)}
    {script' : List (β × Nat)} (told : Told related script script') (silents : related silent silent') (now : Int) :
    related (prepared silent now script).value (prepared silent' now script').value ∧
      (prepared silent now script).cost = (prepared silent' now script').cost ∧
      Told related (prepared silent now script).state (prepared silent' now script').state := by
  cases told with
  | nil => exact ⟨silents, rfl, .nil⟩
  | cons first rest =>
    cases rest with
    | nil => exact ⟨first.1, first.2, .cons first .nil⟩
    | cons second rest => exact ⟨first.1, first.2, .cons second rest⟩

/-! ## Listings -/

/-- A listing says that an address is gone: it succeeded, and does not have it. -/
def Gone (address : String) : Option (List String) → Prop
  | some addresses => address ∉ addresses
  | none => False

/-- One listing in place of another, as far as an address is concerned: one that has it in place of a failure, or one
with other addresses beside it. -/
inductive Retold (address : String) : Option (List String) → Option (List String) → Prop where
  | same (listing : Option (List String)) : Retold address listing listing
  | failed {addresses : List String} (present : address ∈ addresses) : Retold address none (some addresses)
  | others {addresses addresses' : List String} (alike : address ∈ addresses ↔ address ∈ addresses') :
      Retold address (some addresses) (some addresses')

/-- Both say the same of the address. -/
theorem Retold.gone_iff {listing listing' : Option (List String)} (retold : Retold address listing listing') :
    Gone address listing ↔ Gone address listing' := by
  cases retold with
  | same => exact Iff.rfl
  | failed present => exact ⟨False.elim, fun gone => gone present⟩
  | others alike => exact not_congr alike

theorem Probe.removed_value_iff (registry : Registry σ) (address : String) (now : Int) (s : σ) :
    (removed registry address now s).value = true ↔ Gone address (registry now s).value := by
  show (match (registry now s).value with
    | some addresses => !addresses.contains address
    | none => false) = true ↔ _
  cases (registry now s).value with
  | none => exact ⟨nofun, False.elim⟩
  | some addresses => simp [Gone]

/-- **A wait for removal looks at one address of a listing only.** Registries that in related states say the same of it,
after the same time, are conditions alike. -/
theorem Probe.removed_alike {registry : Registry σ} {registry' : Registry τ} {related : σ → τ → Prop}
    (agree : ∀ now s s', related s s' →
      (Gone address (registry now s).value ↔ Gone address (registry' now s').value) ∧
        (registry now s).cost = (registry' now s').cost ∧ related (registry now s).state (registry' now s').state) :
    (removed registry address).Alike related (removed registry' address) := by
  intro now s s' states
  obtain ⟨gone, cost, next⟩ := agree now s s' states
  exact ⟨Bool.eq_iff_iff.mpr ((removed_value_iff ..).trans (gone.trans (removed_value_iff ..).symm)), cost, next⟩

/-- Waits for conditions that are alike are seen alike. -/
theorem seen_eq_of_alike {related : σ → τ → Prop} {probe : Probe σ} {probe' : Probe τ}
    (alike : probe.Alike related probe') (schedule : Schedule) (start : Int) {s : σ} {s' : τ} (first : related s s') :
    (waitUntil probe schedule start s).seen = (waitUntil probe' schedule start s').seen := by
  obtain ⟨ending, finished, begun, -⟩ := waitUntil_alike alike schedule start first
  rw [Outcome.seen, Outcome.seen, ending, finished, begun]

/-- How a wait for removal on a script ends is what the last listing says, and no listing before it says that the address
is gone. -/
theorem Wait.removed_prepared (silent : Option (List String)) (address : String) (schedule : Schedule) (start : Int)
    (script : List (Option (List String) × Nat)) :
    let outcome := waitUntil (.removed (prepared silent) address) schedule start script
    (outcome.converged = true ↔ Gone address (heard silent script (outcome.begun.length - 1))) ∧
      ∀ k, k + 1 < outcome.begun.length → ¬ Gone address (heard silent script k) := by
  intro outcome
  let probe : Probe _ := .removed (prepared silent) address
  have value_iff (k : Nat) :
      (evaluation probe schedule start script k).value probe = true ↔ Gone address (heard silent script k) := by
    have left : (evaluation probe schedule start script k).state = leftAfter script k :=
      evaluation_of_prepared silent (fun _ _ => rfl) schedule start script k
    rw [Evaluation.value, Evaluation.answer, Probe.removed_value_iff, left, prepared_value, heard_leftAfter]
  obtain ⟨n, -, ends⟩ := exists_settledAt (.removed (prepared silent) address) schedule start script
  have count : outcome.begun.length = n + 1 := length_begun ends
  rw [count, Nat.add_sub_cancel]
  constructor
  · show (waitUntil _ schedule start script).converged = true ↔ _
    rw [converged_eq ends, value_iff]
  · intro k earlier gone
    exact ends.pending k (by omega) (.inl ((value_iff k).mpr gone))

/-! ## Health -/

/-- A script with the opposite answers. -/
def opposite (script : List (Bool × Nat)) : List (Bool × Nat) := script.map fun entry => (!entry.1, entry.2)

theorem told_opposite (script : List (Bool × Nat)) :
    Told (fun answer answer' => answer' = !answer) script (opposite script) := by
  induction script with
  | nil => exact .nil
  | cons entry rest ih => exact .cons ⟨rfl, rfl⟩ ih

/-- **Trouble counts as presence.** A wait for an address to leave a registry, on any script of listings, returns that it
has left just if the last listing it hears succeeded and does not have the address, and every listing before failed or
has it. It ends in the same way, at the same instant and with the same evaluations if failures are replaced by listings
that have the address and take as long, and if other addresses are added to listings or taken from them. And a wait for
an address to be ill goes, on any script of answers, as the wait for it to be healthy goes on the opposite answers. -/
theorem removal_takes_trouble_for_presence (address : String) (schedule : Schedule) (start : Int) :
    (∀ (silent : Option (List String)) (script : List (Option (List String) × Nat)),
      let outcome := waitUntil (.removed (prepared silent) address) schedule start script
      (outcome.converged = true ↔
        ∃ addresses, heard silent script (outcome.begun.length - 1) = some addresses ∧ address ∉ addresses) ∧
      (∀ k, k + 1 < outcome.begun.length →
        heard silent script k = none ∨ ∃ addresses, heard silent script k = some addresses ∧ address ∈ addresses) ∧
      ∀ script', Told (Retold address) script script' →
        (waitUntil (.removed (prepared silent) address) schedule start script').seen = outcome.seen) ∧
    ∀ (silent : Bool) (script : List (Bool × Nat)),
      (waitUntil (.unhealthy (fun _ => prepared silent) address) schedule start script).seen =
        (waitUntil (.healthy (fun _ => prepared !silent) address) schedule start (opposite script)).seen := by
  constructor
  · intro silent script outcome
    obtain ⟨converged_iff, earlier⟩ := Wait.removed_prepared silent address schedule start script
    refine ⟨converged_iff.trans ?_, fun k before => ?_, fun script' told => ?_⟩
    · cases heard silent script (outcome.begun.length - 1) with
      | none => exact ⟨False.elim, fun ⟨_, impossible, _⟩ => nomatch impossible⟩
      | some addresses =>
        exact ⟨fun gone => ⟨addresses, rfl, gone⟩, fun ⟨_, same, gone⟩ => Option.some.inj same ▸ gone⟩
    · have present := earlier k before
      cases listing : heard silent script k with
      | none => exact .inl rfl
      | some addresses =>
        rw [listing] at present
        exact .inr ⟨addresses, rfl, not_not.mp present⟩
    · refine (seen_eq_of_alike (Probe.removed_alike fun now _ _ told => ?_) schedule start told).symm
      obtain ⟨retold, cost, next⟩ := told.prepared (.same silent) now
      exact ⟨retold.gone_iff, cost, next⟩
  · intro silent script
    refine seen_eq_of_alike ?_ schedule start (told_opposite script)
    intro now s s' told
    obtain ⟨opposed, cost, next⟩ := told.prepared (show (!silent) = !silent from rfl) now
    exact ⟨opposed.symm, cost, next⟩

/-- A listing that has the address, a failure and a listing without it, beside a script that never fails and lists other
addresses: the third listing ends both waits. -/
theorem removal_after_failed_listing :
    let script : List (Option (List String) × Nat) := [(some ["a", "b"], 0), (none, 3), (some ["b"], 1)]
    let retold : List (Option (List String) × Nat) := [(some ["a"], 0), (some ["c", "a"], 3), (some [], 1)]
    let schedule : Schedule := ⟨10, 100, none⟩
    let wait := waitUntil (.removed (prepared none) "a") schedule 0
    Told (Retold "a") script retold ∧
      (wait script).seen = (.converged, 24, [0, 10, 23]) ∧ (wait retold).seen = (.converged, 24, [0, 10, 23]) := by
  intro script retold schedule wait
  have told : Told (Retold "a") script retold :=
    .cons ⟨.others (by decide), rfl⟩ (.cons ⟨.failed (by decide), rfl⟩ (.cons ⟨.others (by decide), rfl⟩ .nil))
  have seen : (wait script).seen = (.converged, 24, [0, 10, 23]) := by decide +kernel
  obtain ⟨runs, -⟩ := removal_takes_trouble_for_presence "a" schedule 0
  obtain ⟨-, -, same⟩ := runs none script
  exact ⟨told, seen, (same retold told).trans seen⟩

end PortRelease
