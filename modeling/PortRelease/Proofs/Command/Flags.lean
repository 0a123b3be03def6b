import PortRelease.Command.Line
/-!
# Flags in front of a line

Whoever has a command line that is accepted can put `--json` or `--verbose` in front of it, unless it has that flag
already. The line is still accepted, and it is the same command with that flag set.

A flag in front is one that stands before all others (`Given.also`). Each step of the reading takes it along
(`Invocation.TakesFlag`), up to the verb; what stands behind the verb is read from nothing in any case.

* `Invocation.read_json`, `Invocation.read_verbose`: this for the two flags.
-/

namespace PortRelease

/-- A reading in two steps that is accepted was accepted at each. -/
theorem exists_of_bind_eq_ok {α β : Type} {first : Except Halt α} {next : α → Except Halt β} {result : β}
    (accepted : (first >>= next) = .ok result) : ∃ between, first = .ok between ∧ next between = .ok result := by
  cases first with
  | error halt => cases accepted
  | ok between => exact ⟨between, rfl, accepted⟩

namespace Given

variable {scope : Option Verb} {flag : Flag} {given after : Given}

/-- With one more flag, which stands before all others. -/
def also (flag : Flag) (given : Given) : Given := { given with flags := given.flags ++ [flag] }

theorem has_also_self (flag : Flag) (given : Given) : (given.also flag).has flag = true :=
  List.contains_iff_mem.mpr (List.mem_append_right given.flags List.mem_cons_self)

theorem has_also_ne {other : Flag} (differ : other ≠ flag) : (given.also flag).has other = given.has other := by
  have : (other == flag) = false := beq_eq_false_iff_ne.mpr differ
  simp only [has, also, List.contains_append, List.contains_cons, this, List.contains_nil, Bool.or_false]

/-! ## Reading on with it

Where a flag is not among those that have been given in the end, it was not among them before either, and what was taken in is
taken in with it too. -/

theorem addFlag_also {new : Flag} (added : given.addFlag scope new = .ok after) (absent : after.has flag = false) :
    given.has flag = false ∧ (given.also flag).addFlag scope new = .ok (after.also flag) := by
  unfold addFlag at added ⊢
  split at added
  next => cases added
  next no_version =>
    split at added
    next => cases added
    next no_help =>
      split at added
      next => cases added
      next once =>
        cases added
        obtain ⟨other, absent⟩ : flag ≠ new ∧ given.has flag = false := by simpa [has] using absent
        have once : ¬ (given.also flag).flags.contains new = true := by
          rwa [← has, has_also_ne other.symm]
        rw [if_neg no_version, if_neg no_help, if_neg once]
        exact ⟨absent, rfl⟩

theorem addLetters_also {letters : Text} : ∀ {given : Given}, given.addLetters scope letters = .ok after →
    after.has flag = false →
    given.has flag = false ∧ (given.also flag).addLetters scope letters = .ok (after.also flag) := by
  induction letters with
  | nil =>
    intro given added absent
    cases added
    exact ⟨absent, rfl⟩
  | cons letter letters ih =>
    intro given added absent
    unfold addLetters at added ⊢
    split at added
    next new _ =>
      obtain ⟨between, first, rest⟩ := exists_of_bind_eq_ok added
      obtain ⟨absent, rest⟩ := ih rest absent
      obtain ⟨absent, first⟩ := addFlag_also first absent
      exact ⟨absent, by rw [first]; exact rest⟩
    next => cases added

theorem addWord_also {word : Text} {value : Option Text} (added : given.addWord scope word value = .ok after)
    (absent : after.has flag = false) :
    given.has flag = false ∧ (given.also flag).addWord scope word value = .ok (after.also flag) := by
  unfold addWord at added ⊢
  split at added
  next =>
    split at added
    next => cases added
    next no_value =>
      rw [if_neg no_value]
      exact addFlag_also added absent
  next => cases added

end Given

namespace Invocation

open Given

/-- A command with what was given in front of its verb and behind it. -/
def given (command : Command) (front behind : Given) : Invocation :=
  ⟨command, front.has .json || behind.has .json, front.has .verbose || behind.has .verbose⟩

/-- **A reading takes one more flag.** It reads a command with what has been given in front of its verb by then. A flag that
is not among that is not among what is given so far either, and from what is given so far with this flag more the same command
is read, with this flag more in front. -/
def TakesFlag (read : Given → Except Halt Invocation) (so_far : Given) (invocation : Invocation) : Prop :=
  ∃ command front behind, invocation = given command front behind ∧ ∀ flag, front.has flag = false →
    so_far.has flag = false ∧ read (so_far.also flag) = .ok (given command (front.also flag) behind)

/-- So does one that takes something in first, if that can be taken in with the flag too. -/
theorem TakesFlag.after_taking {read : Given → Except Halt Invocation} {take : Given → Except Halt Given} {so_far next : Given}
    {invocation : Invocation} (further : TakesFlag read next invocation)
    (taken : ∀ flag, next.has flag = false → so_far.has flag = false ∧ take (so_far.also flag) = .ok (next.also flag)) :
    TakesFlag (fun so_far => take so_far >>= read) so_far invocation := by
  obtain ⟨command, front, behind, same, further⟩ := further
  refine ⟨command, front, behind, same, fun flag absent => ?_⟩
  obtain ⟨absent, read_on⟩ := further flag absent
  obtain ⟨absent, taken⟩ := taken flag absent
  refine ⟨absent, ?_⟩
  show (take (so_far.also flag) >>= read) = _
  rw [taken]
  exact read_on

theorem takesFlag_readAfter {words : List Text} {invocation : Invocation} : ∀ {so_far : Given},
    readAfter so_far words = .ok invocation → TakesFlag (fun so_far => readAfter so_far words) so_far invocation := by
  induction words with
  | nil => exact fun accepted => nomatch accepted
  | cons word words ih =>
    intro so_far accepted
    unfold readAfter at accepted ⊢
    cases kind : WordKind.of word with
    | terminator =>
      rw [kind] at accepted
      cases accepted
    | operand =>
      rw [kind] at accepted
      simp only at accepted ⊢
      split at accepted
      next => cases accepted
      next verb _ =>
        -- What stands behind the verb is read as before.
        obtain ⟨behind, taken, accepted⟩ := exists_of_bind_eq_ok accepted
        obtain ⟨command, made, accepted⟩ := exists_of_bind_eq_ok accepted
        refine ⟨command, so_far, behind, (Except.ok.inj accepted).symm, fun flag absent => ⟨absent, ?_⟩⟩
        rw [taken]
        show (verb.command behind >>= _) = _
        rw [made]
        rfl
    | letters letters =>
      rw [kind] at accepted
      obtain ⟨next, added, accepted⟩ := exists_of_bind_eq_ok accepted
      exact (ih accepted).after_taking fun _ => addLetters_also added
    | long name value =>
      rw [kind] at accepted
      obtain ⟨next, added, accepted⟩ := exists_of_bind_eq_ok accepted
      exact (ih accepted).after_taking fun _ => addWord_also added

/-- **`--json` before a line without it is accepted, and means only that.** -/
theorem read_json {words : List Text} {invocation : Invocation} (accepted : read words = .ok invocation)
    (off : invocation.json = false) :
    read ("--json".toList :: words) = .ok { invocation with json := true } := by
  obtain ⟨command, front, behind, rfl, further⟩ := takesFlag_readAfter accepted
  obtain ⟨-, flagged⟩ := further .json (Bool.or_eq_false_iff.mp off).1
  refine Eq.trans (show _ = readAfter (empty.also .json) words from rfl) (flagged.trans ?_)
  rw [given, has_also_self, has_also_ne (show Flag.verbose ≠ .json from nofun), Bool.true_or]
  rfl

/-- **And so is `--verbose`.** -/
theorem read_verbose {words : List Text} {invocation : Invocation} (accepted : read words = .ok invocation)
    (off : invocation.verbose = false) :
    read ("--verbose".toList :: words) = .ok { invocation with verbose := true } := by
  obtain ⟨command, front, behind, rfl, further⟩ := takesFlag_readAfter accepted
  obtain ⟨-, flagged⟩ := further .verbose (Bool.or_eq_false_iff.mp off).1
  refine Eq.trans (show _ = readAfter (empty.also .verbose) words from rfl) (flagged.trans ?_)
  rw [given, has_also_self, has_also_ne (show Flag.json ≠ .verbose from nofun), Bool.true_or]
  rfl

end Invocation

end PortRelease
