import PortRelease.Proofs.Platform.Termination
/-!
# Whom the signals of a termination address

The system takes the number of a process or of a group as a signed 32-bit word. A call that signals a process means that
process only if the word is positive: 0 is the group of the caller, -1 is everyone, any other negative word is a group. A
call that signals a group is the call for the negated word, so that it means that group only if the word is above 1, and
group 1 is everyone (`SignalCall.Particular`).

Numbers come from the text of `ps` and may be too large for the word; those are passed over, so every process that is
signalled is one process. What is left is the group of the first process: `terminate_addresses_everyone_iff` says exactly
when a termination signals it, and with it everyone.
-/

namespace PortRelease

namespace SignalCall

/-- The word that the system is handed for a number. -/
def word (number : Nat) : Int := (BitVec.ofNat 32 number).toInt

/-- **A call addresses one process or one group**, and neither everyone nor the caller's own group. -/
def Particular : SignalCall → Prop
  | toProcess pid _ => 1 ≤ word pid
  | toGroup group _ => 2 ≤ word group

instance : DecidablePred Particular
  | toProcess pid _ => inferInstanceAs (Decidable (1 ≤ word pid))
  | toGroup group _ => inferInstanceAs (Decidable (2 ≤ word group))

/-- The number of a process does not wrap. -/
theorem word_of_le {number : Nat} (h : number ≤ 2147483647) : word number = number := by
  rw [word, BitVec.toInt_eq_toNat_of_lt]
  · rw [BitVec.toNat_ofNat]
    omega
  · rw [BitVec.toNat_ofNat]
    omega

variable {signal : Signal}

theorem particular_toProcess {pid : Nat} (possible : 1 ≤ pid ∧ pid ≤ 2147483647) :
    (toProcess pid signal).Particular := by
  rw [Particular, word_of_le possible.2]
  exact Int.ofNat_le.mpr possible.1

theorem particular_toGroup_iff (leader : ProcessId) : (toGroup leader.number signal).Particular ↔ leader.number ≠ 1 := by
  have positive := leader.number_pos
  rw [Particular, word_of_le leader.number_le]
  omega

end SignalCall

namespace Unix

open World

variable {root : ProcessId} {mode : Mode} {now : Int} {w : World}

/-! ## The calls of a termination -/

/-- The calls are what a termination leaves behind, besides the run of `ps`. -/
theorem exists_events_terminate (root : ProcessId) (mode : Mode) (now : Int) (w : World) :
    ∃ made, (terminate root mode now w).2.events = w.events ++ made ∧
      made.filterMap Event.signalCall? = calls root mode now w := by
  obtain ⟨made, events, told⟩ := (terminate_sent root mode now w).events_eq
  have told : made.filterMap Event.signalCall? = calls root mode now w := by
    have once := congrArg (List.filterMap id) told
    rw [List.filterMap_map, List.filterMap_map] at once
    exact once.trans List.filterMap_some
  obtain ⟨shown, ran, only⟩ := exists_events_snapshot w
  have no_call : shown.filterMap Event.signalCall? = [] := List.filterMap_eq_nil_iff.mpr fun event mem => by
    rw [only event mem]
    rfl
  refine ⟨shown ++ made, ?_, ?_⟩
  · rw [events, ran, List.append_assoc]
  · rw [List.filterMap_append, no_call, told, List.nil_append]

/-- Each of them signals one process, or the group of the root. -/
theorem particular_or_toGroup_of_mem {call : SignalCall} (mem : call ∈ calls root mode now w) :
    call.Particular ∨ call = .toGroup root.number (Signal.ofMode mode) := by
  have to_root : (SignalCall.toProcess root.number (Signal.ofMode mode)).Particular :=
    SignalCall.particular_toProcess ⟨root.number_pos, root.number_le⟩
  cases answer : ((snapshot w).2.signal now root (Signal.ofMode mode)).1 with
  | some refusal =>
    rw [calls_of_refused answer] at mem
    exact .inl (List.mem_singleton.mp mem ▸ to_root)
  | none =>
    rw [calls_of_taken answer] at mem
    rcases List.mem_cons.mp mem with rfl | further
    · exact .inl to_root
    · rcases List.mem_append.mp further with group | below
      · split at group
        next => exact .inr (List.mem_singleton.mp group)
        next => exact absurd group List.not_mem_nil
      · obtain ⟨pid, possible, rfl⟩ := List.mem_map.mp below
        exact .inl (SignalCall.particular_toProcess (of_decide_eq_true (List.mem_filter.mp possible).2))

/-- The group of the root is signalled just if the root takes the signal and is then seen to lead it. -/
theorem toGroup_mem_calls_iff : .toGroup root.number (Signal.ofMode mode) ∈ calls root mode now w ↔
    (terminate root mode now w).1 = .ok () ∧ seenToLead root (Signal.ofMode mode) now w = true := by
  cases answer : ((snapshot w).2.signal now root (Signal.ofMode mode)).1 with
  | some refusal =>
    rw [calls_of_refused answer, terminate_of_refused answer]
    simp
  | none =>
    rw [calls_of_taken answer, terminate_of_taken answer]
    simp

/-- So a call that does not is for group 1. -/
theorem eq_toGroup_of_not_particular {call : SignalCall} (mem : call ∈ calls root mode now w)
    (addresses : ¬ call.Particular) : root.number = 1 ∧ call = .toGroup root.number (Signal.ofMode mode) := by
  have group := (particular_or_toGroup_of_mem mem).resolve_left addresses
  rw [group, SignalCall.particular_toGroup_iff, not_not] at addresses
  exact ⟨addresses, group⟩

/-- **A termination addresses everyone just through group 1.** Every process that it signals is one process, and every group
that it signals is one group unless it is group 1. That group is signalled just if the root is process 1, takes the signal,
and leads its group right afterwards. -/
theorem terminate_addresses_everyone_iff (root : ProcessId) (mode : Mode) (now : Int) (w : World) :
    let signal := Signal.ofMode mode
    let after := (terminate root mode now w).2
    let survivor := w.processes.find? fun p => p.aliveAt now && p.pid == root.number && p.outlasts signal
    ∃ made, after.events = w.events ++ made ∧
      (∀ call ∈ made.filterMap Event.signalCall?, call.Particular ∨ call = .toGroup 1 signal) ∧
      ((∃ call ∈ made.filterMap Event.signalCall?, ¬ call.Particular) ↔
        root.number = 1 ∧ (terminate root mode now w).1 = .ok () ∧
          survivor.map ProcessState.group = some root.number) := by
  intro signal after survivor
  obtain ⟨made, events, told⟩ := exists_events_terminate root mode now w
  refine ⟨made, events, ?_, ?_⟩
  · rw [told]
    intro call mem
    refine Classical.or_iff_not_imp_left.mpr fun addresses => ?_
    obtain ⟨first, group⟩ := eq_toGroup_of_not_particular mem addresses
    rw [group, first]
  · rw [told]
    constructor
    · rintro ⟨call, mem, addresses⟩
      obtain ⟨first, rfl⟩ := eq_toGroup_of_not_particular mem addresses
      obtain ⟨taken, leads⟩ := toGroup_mem_calls_iff.mp mem
      exact ⟨first, taken, seenToLead_iff.mp leads⟩
    · rintro ⟨first, taken, leads⟩
      refine ⟨_, toGroup_mem_calls_iff.mpr ⟨taken, seenToLead_iff.mpr leads⟩, ?_⟩
      rw [SignalCall.particular_toGroup_iff, not_not]
      exact first

/-- **Ending process 1 signals everyone.** It leads its group and takes the signal, and the call for its group is the call
for everyone: process 200 is ended by it, although it is in a group of its own. -/
theorem first_process_ended_with_everyone :
    let first : ProcessState := ⟨1, 1, none, 10, [], [], none⟩
    let other : ProcessState := ⟨200, 200, none, 0, [], [], none⟩
    let w : World := ⟨[], [first, other], [], [], 200, [], []⟩
    let root : ProcessId := ⟨1, by decide, by decide⟩
    (terminate root .graceful 0 w).2.events = [.signalled 1 .terminate none, .signalledGroup 1 .terminate none] ∧
      ¬ (SignalCall.toGroup 1 .terminate).Particular ∧
      (terminate root .graceful 0 w).2.processes[1]? = some { other with deadFrom := some 0 } := by
  intro first other w root
  exact ⟨rfl, by decide, rfl⟩

end Unix

end PortRelease
