import PortRelease.Errno.Table
/-!
# System errors

A system call that fails gives an error number. The library decides on a few of them and otherwise only
reports them, by symbol in an event, by sentence in a message.
-/

namespace PortRelease

/-- A system error, by its number. -/
structure Errno where
  code : Nat
  deriving DecidableEq

namespace Errno

/-- Operation not permitted. -/
def notPermitted : Errno := ⟨1⟩
/-- No such file or directory. -/
def noEntry : Errno := ⟨2⟩
/-- No such process. -/
def noProcess : Errno := ⟨3⟩
/-- Permission denied. -/
def accessDenied : Errno := ⟨13⟩
/-- Device or resource busy. -/
def busy : Errno := ⟨16⟩
/-- File exists. -/
def alreadyExists : Errno := ⟨17⟩
/-- Not a directory. -/
def notDirectory : Errno := ⟨20⟩
/-- Is a directory. -/
def isDirectory : Errno := ⟨21⟩
/-- Too many open files. -/
def tooManyOpen : Errno := ⟨24⟩
/-- File name too long. -/
def nameTooLong : Errno := ⟨36⟩
/-- Address already in use. -/
def addressInUse : Errno := ⟨98⟩

/-- The error's row in the table, if it has one. -/
def row? (e : Errno) : Option Row := rows.find? fun row => row.code == e.code

/-- The error with this symbol. -/
def ofSymbol? (symbol : String) : Option Errno :=
  (rows.find? fun row => row.symbol == symbol).map fun row => ⟨row.code⟩

/-- The symbol of an error. -/
def symbol (e : Errno) : String := (e.row?.map Row.symbol).getD s!"E{e.code}"

/-- The sentence of an error. -/
def sentence (e : Errno) : String := (e.row?.map Row.sentence).getD s!"Unknown error {e.code}"

/-- The sentence with which the signal interface reports an error. -/
def signalSentence (e : Errno) : String :=
  ((signalSentences.find? fun entry => entry.1 == e.code).map Prod.snd).getD e.sentence

/-- **How an error reads in a message**: its sentence, then its number. -/
def message (e : Errno) : String := s!"{e.sentence} (os error {e.code})"

example : noEntry.message = "No such file or directory (os error 2)" := by decide
example : ofSymbol? "ESRCH" = some noProcess := by decide
example : (⟨5⟩ : Errno).signalSentence = "I/O error" := by decide

end Errno

/-- Why an input or output operation failed. -/
inductive IoFault where
  /-- The system refused it. -/
  | system (error : Errno)
  /-- A path contains the NUL character, which no path can. -/
  | nulInPath
  /-- What was read as text is not UTF-8. -/
  | notText
  /-- A host name has no address. -/
  | unknownHost
  /-- A host name stands for an empty list of addresses. -/
  | noAddress
  deriving DecidableEq

/-- The wording of a fault. -/
def IoFault.message : IoFault → String
  | .system error => error.message
  | .nulInPath => "file name contained an unexpected NUL byte"
  | .notText => "stream did not contain valid UTF-8"
  | .unknownHost => "failed to lookup address information: Name or service not known"
  | .noAddress => "could not resolve to any address"

end PortRelease
