import PortRelease.Command.Basic
/-!
# Command lines

A command line is a verb with the flags, options and operands that follow it; `--json`, `--verbose`,
`--version` and `--help` may also stand before the verb. Words are taken from left to right, and each is
checked when it is reached: the first that is wrong ends the reading, and so do `--version` and `--help`, which
nothing behind them can make wrong any more.

A word that begins with a hyphen is a flag, several flags in one, or an option; a hyphen alone is an operand,
and behind a word of two hyphens all words are operands. The process id of `kill` may be a negative number,
which is then no flag. On either side of the verb a flag or option stands at most once.
-/

namespace PortRelease

/-- The verbs. -/
inductive Verb where
  | lookup
  | kill
  | stop
  | waitClosed
  | waitHealthy
  | listen
  | config
  deriving DecidableEq

namespace Verb

/-- All verbs. -/
def all : List Verb := [.lookup, .kill, .stop, .waitClosed, .waitHealthy, .listen, .config]

/-- The word for a verb. -/
def word : Verb → String
  | .lookup => "lookup"
  | .kill => "kill"
  | .stop => "stop"
  | .waitClosed => "wait-closed"
  | .waitHealthy => "wait-healthy"
  | .listen => "listen"
  | .config => "config"

/-- The verb that a word names. -/
def ofWord? (word : Text) : Option Verb := all.find? fun verb => verb.word.toList = word

/-- Whether times can be given for it. -/
def isTimed : Verb → Bool
  | .stop => true
  | .waitClosed => true
  | .waitHealthy => true
  | _ => false

end Verb

/-- What stands for itself. -/
inductive Flag where
  | json
  | verbose
  | version
  | help
  | force
  | init
  deriving DecidableEq

namespace Flag

/-- The word for a flag. -/
def word : Flag → String
  | .json => "json"
  | .verbose => "verbose"
  | .version => "version"
  | .help => "help"
  | .force => "force"
  | .init => "init"

/-- The letter for a flag, if it has one. -/
def letter? : Flag → Option Char
  | .verbose => some 'v'
  | .version => some 'V'
  | .help => some 'h'
  | .force => some 'f'
  | _ => none

/-- The flags that a verb knows, or that can stand before it. -/
def known : Option Verb → List Flag
  | some .kill => [.json, .verbose, .version, .help, .force]
  | some .stop => [.json, .verbose, .version, .help, .force]
  | some .config => [.json, .verbose, .version, .help, .init]
  | _ => [.json, .verbose, .version, .help]

end Flag

/-- What has a time as its value. -/
inductive TimeOption where
  | timeout
  | interval
  deriving DecidableEq

/-- The word for such an option. -/
def TimeOption.word : TimeOption → String
  | .timeout => "timeout-ms"
  | .interval => "interval-ms"

/-- The option that a word names, for a verb that knows it. -/
def Verb.timeOption? (verb : Verb) (word : Text) : Option TimeOption :=
  if verb.isTimed then [.timeout, .interval].find? fun option => TimeOption.word option = String.ofList word
  else none

/-! ## What is wrong with a line -/

/-- What is wrong with a command line. -/
inductive UsageError where
  | noVerb
  | unknownVerb (word : Text)
  | unknownOption (word : Text)
  | repeated (word : String)
  | valueMissing (option : String)
  | valueNotAllowed (flag : String)
  | malformed (word : Text)
  | tooManyOperands (word : Text)
  | operandMissing (verb : Verb)
  deriving DecidableEq

/-- The sentence for what is wrong. -/
def UsageError.message : UsageError → String
  | .noVerb => "a command is required"
  | .unknownVerb word => s!"unknown command: {String.ofList word}"
  | .unknownOption word => s!"unknown option: {String.ofList word}"
  | .repeated word => s!"--{word} is given more than once"
  | .valueMissing option => s!"--{option} needs a value"
  | .valueNotAllowed flag => s!"--{flag} takes no value"
  | .malformed word => s!"not a valid value: {String.ofList word}"
  | .tooManyOperands word => s!"unexpected argument: {String.ofList word}"
  | .operandMissing verb => s!"{verb.word} needs an argument"

/-- What ends the reading of a line before it is a command. -/
inductive Halt where
  /-- The version is asked for, of the program or of a command. -/
  | version (verb : Option Verb)
  /-- Help is asked for. -/
  | help (verb : Option Verb)
  /-- The line is wrong. -/
  | usage (error : UsageError)
  deriving DecidableEq

/-! ## Words -/

/-- What a word is by its hyphens. -/
inductive WordKind where
  /-- Two hyphens and nothing else. -/
  | terminator
  | operand
  /-- Flags by their letters. -/
  | letters (letters : Text)
  /-- A flag or option by its word, with the value that follows an equals sign. -/
  | long (word : Text) (value : Option Text)
  deriving DecidableEq

/-- The kind of a word. -/
def WordKind.of : Text → WordKind
  | ['-', '-'] => .terminator
  | '-' :: '-' :: word =>
    match Text.splitFirst '=' word with
    | some (name, value) => .long name (some value)
    | none => .long word none
  | '-' :: first :: more => .letters (first :: more)
  | _ => .operand

/-- Whether a word is a hyphen and digits. -/
def isNegative : Text → Bool
  | '-' :: digits => (Numeral.ofDigits? digits).isSome
  | _ => false

/-- An operand, by what its verb takes it for. -/
inductive Operand where
  | port (port : Port)
  | process (number : Int)
  | address (address : String)
  deriving DecidableEq

/-- The port that an operand is. -/
def Operand.port? : Operand → Option Port
  | .port p => some p
  | _ => none

/-- Reads an operand of a verb. -/
def Verb.operand? : Verb → Text → Option Operand
  | .lookup, word => (Port.read? word).map .port
  | .kill, word => (Numeral.readSigned? Numeral.limit64Signed word).map .process
  | .stop, word => (Port.read? word).map .port
  | .waitClosed, word => (Port.read? word).map .port
  | .waitHealthy, word => some (.address (String.ofList word))
  | .listen, word => (Port.read? word).map .port
  | .config, _ => none

/-- Whether a verb takes one more operand after these. -/
def Verb.takesMore : Verb → List Operand → Bool
  | .waitClosed, _ => true
  | .config, _ => false
  | _, operands => operands.isEmpty

/-! ## Taking words in -/

/-- What the words so far have given. -/
structure Given where
  flags : List Flag
  timing : Timing
  operands : List Operand
  deriving DecidableEq

namespace Given

/-- Nothing yet. -/
def empty : Given := ⟨[], ⟨none, none⟩, []⟩

/-- Takes a flag in. -/
def addFlag (scope : Option Verb) (flag : Flag) (given : Given) : Except Halt Given :=
  if flag = .version then .error (.version scope)
  else if flag = .help then .error (.help scope)
  else if given.flags.contains flag then .error (.usage (.repeated flag.word))
  else .ok { given with flags := flag :: given.flags }

/-- Takes flags in by their letters. -/
def addLetters (scope : Option Verb) : Text → Given → Except Halt Given
  | [], given => .ok given
  | letter :: letters, given =>
    match (Flag.known scope).find? fun flag => flag.letter? = some letter with
    | some flag => do addLetters scope letters (← given.addFlag scope flag)
    | none => .error (.usage (.unknownOption ['-', letter]))

/-- Takes a flag in by its word. -/
def addWord (scope : Option Verb) (word : Text) (value : Option Text) (given : Given) : Except Halt Given :=
  match (Flag.known scope).find? fun flag => flag.word.toList = word with
  | some flag =>
    if value.isSome then .error (.usage (.valueNotAllowed flag.word)) else given.addFlag scope flag
  | none => .error (.usage (.unknownOption ('-' :: '-' :: word)))

/-- Takes a time in. -/
def addTime (option : TimeOption) (word : Text) (given : Given) : Except Halt Given :=
  match Numeral.readBelow? Numeral.limit64 word, option with
  | none, _ => .error (.usage (.malformed word))
  | some n, .timeout =>
    if given.timing.timeout.isSome then .error (.usage (.repeated option.word))
    else .ok { given with timing := { given.timing with timeout := some (.ofNat n) } }
  | some n, .interval =>
    if given.timing.interval.isSome then .error (.usage (.repeated option.word))
    else .ok { given with timing := { given.timing with interval := some (.ofNat n) } }

/-- Takes an operand in. -/
def addOperand (verb : Verb) (word : Text) (given : Given) : Except Halt Given :=
  if verb.takesMore given.operands then
    match verb.operand? word with
    | some operand => .ok { given with operands := given.operands ++ [operand] }
    | none => .error (.usage (.malformed word))
  else .error (.usage (.tooManyOperands word))

/-- Takes the words behind a verb in. -/
def addWords (verb : Verb) : List Text → Given → Except Halt Given
  | [], given => .ok given
  | word :: rest, given =>
    if verb = .kill && given.operands.isEmpty && isNegative word then do
      addWords verb rest (← given.addOperand verb word)
    else
      match WordKind.of word with
      | .terminator => rest.foldlM (fun given word => given.addOperand verb word) given
      | .operand => do addWords verb rest (← given.addOperand verb word)
      | .letters letters => do addWords verb rest (← given.addLetters (some verb) letters)
      | .long name value =>
        match verb.timeOption? name with
        | none => do addWords verb rest (← given.addWord (some verb) name value)
        | some option =>
          match value, rest with
          | some value, rest => do addWords verb rest (← given.addTime option value)
          | none, value :: rest => do addWords verb rest (← given.addTime option value)
          | none, [] => .error (.usage (.valueMissing option.word))

/-- Whether a flag was given. -/
def has (given : Given) (flag : Flag) : Bool := given.flags.contains flag

/-- The mode that was given. -/
def mode (given : Given) : Mode := .ofForce (given.has .force)

end Given

/-! ## Commands -/

/-- The command of a verb, from what its words have given. -/
def Verb.command (verb : Verb) (given : Given) : Except Halt Command :=
  match verb, given.operands with
  | .lookup, [.port port] => .ok (.lookup port)
  | .kill, [.process number] => .ok (.kill number given.mode)
  | .stop, [.port port] => .ok (.stop port given.mode given.timing)
  | .waitClosed, first :: more => .ok (.waitClosed ((first :: more).filterMap Operand.port?) given.timing)
  | .waitHealthy, [.address address] => .ok (.waitHealthy address given.timing)
  | .listen, [.port port] => .ok (.listen port)
  | .config, _ => .ok (.config (given.has .init))
  | verb, _ => .error (.usage (.operandMissing verb))

/-- Reads the words from the verb on, or before it. -/
def Invocation.readAfter (given : Given) : List Text → Except Halt Invocation
  | [] => .error (.usage .noVerb)
  | word :: rest =>
    match WordKind.of word with
    | .operand =>
      match Verb.ofWord? word with
      | none => .error (.usage (.unknownVerb word))
      | some verb => do
        let behind ← Given.addWords verb rest .empty
        let command ← verb.command behind
        return ⟨command, given.has .json || behind.has .json, given.has .verbose || behind.has .verbose⟩
    | .terminator => .error (.usage .noVerb)
    | .letters letters => do readAfter (← given.addLetters none letters) rest
    | .long name value => do readAfter (← given.addWord none name value) rest

/-- **Reads a command line.** -/
def Invocation.read (words : List Text) : Except Halt Invocation := readAfter .empty words

end PortRelease
