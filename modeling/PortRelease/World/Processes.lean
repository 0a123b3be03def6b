import PortRelease.World.Basic
/-!
# Signalling processes

A signal meets every live process that it is sent to. A process may refuse it; otherwise the signal is
delivered, and ends the process after the process's own delay unless the process ignores that signal or is
ending already. Dead processes are met by nothing.

A group is signalled by its number, and its members are meant; but the number 1 stands for everyone, whatever
group they are in. The call is the one for the negated number, and -1 is no group.

A call that sends a signal succeeds if the signal was delivered to somebody; else it reports the first refusal,
or that there is no such process.
-/

namespace PortRelease

namespace ProcessState

/-- Whether the process is alive at an instant. -/
def aliveAt (now : Int) (p : ProcessState) : Bool :=
  match p.deadFrom with
  | some death => decide (now < death)
  | none => true

/-- The process after a signal has met it. -/
def receive (now : Int) (signal : Signal) (p : ProcessState) : ProcessState :=
  if p.refusal.isSome || p.ignores.contains signal || p.deadFrom.isSome then p
  else { p with deadFrom := some (now + p.exitDelay) }

end ProcessState

namespace World

/-- The live processes that `chosen` picks out. -/
def targets (now : Int) (chosen : ProcessState → Bool) (w : World) : List ProcessState :=
  w.processes.filter fun p => p.aliveAt now && chosen p

/-- What a call that sends a signal reports, given the processes that the signal meets. -/
def refusalOf (targets : List ProcessState) : Option Errno :=
  if targets.any fun p => p.refusal.isNone then none
  else some ((targets.head?.bind ProcessState.refusal).getD .noProcess)

/-- The world after a signal has met the live processes that `chosen` picks out. -/
def deliver (now : Int) (signal : Signal) (chosen : ProcessState → Bool) (w : World) : World :=
  { w with processes := w.processes.map fun p =>
      if p.aliveAt now && chosen p then p.receive now signal else p }

/-- **Signals one process**: the refusal, if there is one, and the world after. -/
def signal (now : Int) (pid : ProcessId) (signal : Signal) (w : World) : Option Errno × World :=
  let chosen (p : ProcessState) : Bool := p.pid == pid.number
  let refusal := refusalOf (w.targets now chosen)
  (refusal, (w.deliver now signal chosen).record (.signalled pid.number signal refusal))

/-- Whether a call for a group means the members of a group: its own, and for group 1 those of every group. -/
def groupMeans (called group : Nat) : Bool := called == 1 || group == called

/-- **Signals a process group**, or everyone if that is group 1. -/
def signalGroup (now : Int) (group : ProcessId) (signal : Signal) (w : World) : Option Errno × World :=
  let chosen (p : ProcessState) : Bool := groupMeans group.number p.group
  let refusal := refusalOf (w.targets now chosen)
  (refusal, (w.deliver now signal chosen).record (.signalledGroup group.number signal refusal))

/-- The group of a live process. -/
def groupOf? (now : Int) (pid : ProcessId) (w : World) : Option Nat :=
  (w.targets now fun p => p.pid == pid.number).head?.map ProcessState.group

end World

end PortRelease
