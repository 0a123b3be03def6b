import PortRelease.Port.Address
/-!
# A listing of connections

The sockets of a machine as `netstat -ano` prints them: protocol, local address, foreign address, state, id of
the owner. The state is written in the language of the machine and may be several words, so it is not looked
at: a listener is a TCP row whose foreign port is 0, and its owner is the row's last word.
-/

namespace PortRelease.Listing

/-- The owner on a line, if the line is a listener on `port`. -/
def connectionOwner? (port : Port) (line : Text) : Option Nat :=
  if "TCP".toList.isPrefixOf line.trim then
    match line.words with
    | _ :: here :: there :: state :: owner :: more =>
      if SocketAddress.hasPort ⟨0, by decide⟩ there ∧ SocketAddress.hasPort port here then
        Numeral.readBelow? Numeral.limit32 ((state :: owner :: more).getLast (by simp))
      else none
    | _ => none
  else none

/-- The owners of the listeners on `port`, each once, in order of first appearance. -/
def connectionOwners (port : Port) (output : Text) : List Nat :=
  (output.lines.filterMap (connectionOwner? port)).eraseDups

end PortRelease.Listing
