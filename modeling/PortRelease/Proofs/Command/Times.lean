import PortRelease.Proofs.Command.Flags
/-!
# Times on a line

Whoever has a line with a command that waits can give a time that the line leaves out, right behind the verb. The line is
still accepted, and it is the same command with that time.

A time that is given there is one more among what has been given by then (`Given.withTime`). If a line leaves it out to
the end, each step of the reading takes it along (`Given.TakesAlong`), and so does the reading of all words behind the
verb.

* `Invocation.hasVerb_of_readAfter`: where the verb of a line stands, and that what stands behind it can be replaced.
* `Invocation.read_with_time`: a line with a time more.
-/

namespace PortRelease

/-! ## Times of a command -/

/-- The time that an option has. -/
def Timing.get (timing : Timing) : TimeOption → Option UInt64
  | .timeout => timing.timeout
  | .interval => timing.interval

/-- With a time for an option. -/
def Timing.set (option : TimeOption) (time : UInt64) (timing : Timing) : Timing :=
  match option with
  | .timeout => { timing with timeout := some time }
  | .interval => { timing with interval := some time }

theorem Timing.get_set_self {timing : Timing} {option : TimeOption} {time : UInt64} :
    (timing.set option time).get option = some time := by
  cases option with
  | timeout => rfl
  | interval => rfl

theorem Timing.get_set_ne {timing : Timing} {option other : TimeOption} {time : UInt64} (differ : other ≠ option) :
    (timing.set option time).get other = timing.get other := by
  cases option with
  | timeout =>
    cases other with
    | timeout => exact absurd rfl differ
    | interval => rfl
  | interval =>
    cases other with
    | timeout => rfl
    | interval => exact absurd rfl differ

theorem Timing.set_comm {timing : Timing} {option other : TimeOption} {time earlier : UInt64}
    (differ : other ≠ option) :
    (timing.set option earlier).set other time = (timing.set other time).set option earlier := by
  cases option with
  | timeout =>
    cases other with
    | timeout => exact absurd rfl differ
    | interval => rfl
  | interval =>
    cases other with
    | timeout => rfl
    | interval => exact absurd rfl differ

/-- The times that are given for a command that waits. -/
def Command.timing? : Command → Option Timing
  | .stop _ _ timing => some timing
  | .waitClosed _ timing => some timing
  | .waitHealthy _ timing => some timing
  | _ => none

/-- A command that waits, with a time for an option. -/
def Command.withTime (option : TimeOption) (time : UInt64) : Command → Command
  | .stop port mode timing => .stop port mode (timing.set option time)
  | .waitClosed ports timing => .waitClosed ports (timing.set option time)
  | .waitHealthy address timing => .waitHealthy address (timing.set option time)
  | other => other

namespace Given

variable {scope : Option Verb} {verb : Verb} {given after : Given} {option : TimeOption} {time : UInt64}

/-- With a time for an option. -/
def withTime (option : TimeOption) (time : UInt64) (given : Given) : Given :=
  { given with timing := given.timing.set option time }

/-! ## Reading on with it -/

/-- **A step of a reading takes times along.** Where it is accepted and an option has no time after it, the option had
none before, and with a time for it the step is accepted too and changes nothing else. -/
def TakesAlong (step : Given → Except Halt Given) : Prop :=
  ∀ ⦃given after : Given⦄ ⦃option : TimeOption⦄ (time : UInt64),
    step given = .ok after → after.timing.get option = none →
    given.timing.get option = none ∧ step (given.withTime option time) = .ok (after.withTime option time)

theorem TakesAlong.nothing : TakesAlong .ok := by
  rintro given after option time ⟨⟩ absent
  exact ⟨absent, rfl⟩

theorem TakesAlong.refused (halt : Halt) : TakesAlong fun _ => .error halt := fun _ _ _ _ => nofun

theorem TakesAlong.andThen {first next : Given → Except Halt Given} (takes_first : TakesAlong first)
    (takes_next : TakesAlong next) : TakesAlong fun given => first given >>= next := by
  intro given after option time accepted absent
  obtain ⟨between, taken, accepted⟩ := exists_of_bind_eq_ok accepted
  obtain ⟨absent, accepted⟩ := takes_next time accepted absent
  obtain ⟨absent, taken⟩ := takes_first time taken absent
  refine ⟨absent, ?_⟩
  show (first (given.withTime option time) >>= next) = _
  rw [taken]
  exact accepted

theorem TakesAlong.foldlM {α : Type} {step : Given → α → Except Halt Given}
    (takes : ∀ a, TakesAlong (step · a)) :
    ∀ words : List α, TakesAlong fun given => words.foldlM step given := by
  intro words
  induction words with
  | nil => exact .nothing
  | cons word words ih => exact (takes word).andThen ih

theorem takesAlong_addFlag (scope : Option Verb) (flag : Flag) : TakesAlong (addFlag scope flag) := by
  intro given after option time added absent
  unfold addFlag at added ⊢
  split at added
  next => cases added
  next no_version =>
    split at added
    next => cases added
    next no_help =>
      split at added
      next => cases added
      next once =>
        cases added
        rw [if_neg no_version, if_neg no_help]
        exact ⟨absent, if_neg once⟩

theorem takesAlong_addLetters (scope : Option Verb) (letters : Text) : TakesAlong (addLetters scope letters) := by
  induction letters with
  | nil => exact .nothing
  | cons letter letters ih =>
    cases known : (Flag.known scope).find? fun flag => flag.letter? = some letter with
    | some flag =>
      have step : addLetters scope (letter :: letters) =
          fun given => given.addFlag scope flag >>= addLetters scope letters := by
        funext given
        rw [addLetters, known]
      rw [step]
      exact (takesAlong_addFlag scope flag).andThen ih
    | none =>
      have step : addLetters scope (letter :: letters) = fun _ => .error (.usage (.unknownOption ['-', letter])) := by
        funext given
        rw [addLetters, known]
      rw [step]
      exact .refused _

theorem takesAlong_addWord (scope : Option Verb) (word : Text) (value : Option Text) :
    TakesAlong (addWord scope word value) := by
  unfold addWord
  split
  next flag _ =>
    split
    next => exact .refused _
    next => exact takesAlong_addFlag scope flag
  next => exact .refused _

theorem takesAlong_addOperand (verb : Verb) (word : Text) : TakesAlong (addOperand verb word) := by
  intro given after option time added absent
  unfold addOperand at added ⊢
  split at added
  next takes_more =>
    split at added
    next operand read =>
      cases added
      exact ⟨absent, if_pos takes_more⟩
    next => cases added
  next => cases added

theorem addTime_of_number {word : Text} {n : Nat} (read : Numeral.readBelow? Numeral.limit64 word = some n) :
    given.addTime option word =
      if (given.timing.get option).isSome then .error (.usage (.repeated option.word))
      else .ok (given.withTime option (.ofNat n)) := by
  unfold addTime
  rw [read]
  cases option with
  | timeout => rfl
  | interval => rfl

/-- A time is taken in just if it had not been given before. -/
theorem addTime_eq_ok_iff {word : Text} : given.addTime option word = .ok after ↔
    ∃ n, Numeral.readBelow? Numeral.limit64 word = some n ∧ given.timing.get option = none ∧
      after = given.withTime option (.ofNat n) := by
  cases read : Numeral.readBelow? Numeral.limit64 word with
  | none => simp [addTime, read]
  | some n =>
    rw [addTime_of_number read]
    cases given.timing.get option with
    | none => simp [eq_comm]
    | some earlier => simp

theorem takesAlong_addTime (option : TimeOption) (word : Text) : TakesAlong (addTime option word) := by
  intro given after other time added absent
  obtain ⟨n, read, unset, rfl⟩ := addTime_eq_ok_iff.mp added
  have differ : other ≠ option := by
    rintro rfl
    rw [withTime, Timing.get_set_self] at absent
    cases absent
  rw [withTime, Timing.get_set_ne differ] at absent
  refine ⟨absent, addTime_eq_ok_iff.mpr ⟨n, read, ?_, ?_⟩⟩
  · rw [withTime, Timing.get_set_ne differ.symm]
    exact unset
  · rw [withTime, withTime, withTime, withTime, Timing.set_comm differ]

/-- **The words behind a verb take times along.** An option can take the word behind it as its value, so the recursion is
on how many words there are. -/
theorem takesAlong_addWords (verb : Verb) (words : List Text) : TakesAlong (addWords verb words) := by
  match words with
  | [] => exact .nothing
  | word :: rest =>
    have read_on := takesAlong_addWords verb rest
    intro given after option time accepted absent
    -- whether the word is a process id is a matter of the operands, which stay the same
    have same_operands : (given.withTime option time).operands = given.operands := rfl
    unfold addWords at accepted ⊢
    rw [same_operands]
    by_cases negative : (verb = .kill && given.operands.isEmpty && isNegative word) = true
    · rw [if_pos negative] at accepted ⊢
      exact (takesAlong_addOperand verb word).andThen read_on time accepted absent
    · rw [if_neg negative] at accepted ⊢
      cases kind : WordKind.of word with
      | terminator =>
        rw [kind] at accepted
        exact TakesAlong.foldlM (takesAlong_addOperand verb) rest time accepted absent
      | operand =>
        rw [kind] at accepted
        exact (takesAlong_addOperand verb word).andThen read_on time accepted absent
      | letters letters =>
        rw [kind] at accepted
        exact (takesAlong_addLetters (some verb) letters).andThen read_on time accepted absent
      | long name value =>
        simp only [kind] at accepted ⊢
        cases known : verb.timeOption? name with
        | none =>
          rw [known] at accepted
          exact (takesAlong_addWord (some verb) name value).andThen read_on time accepted absent
        | some option =>
          simp only [known] at accepted ⊢
          cases value with
          | some value => exact (takesAlong_addTime option value).andThen read_on time accepted absent
          | none =>
            cases rest with
            | nil => cases accepted
            | cons value more =>
              exact (takesAlong_addTime option value).andThen (takesAlong_addWords verb more) time accepted absent
termination_by words.length

/-! ## A time more -/

end Given

/-- **How an option and its value are given**: in two words, or in one with an equals sign between them. -/
inductive TimeOption.Spelled (option : TimeOption) (value : Text) : List Text → Prop
  | apart : Spelled option value ['-' :: '-' :: option.word.toList, value]
  | joined : Spelled option value ['-' :: '-' :: (option.word.toList ++ '=' :: value)]

theorem TimeOption.no_equals (option : TimeOption) : '=' ∉ option.word.toList := by
  cases option with
  | timeout => decide
  | interval => decide

theorem WordKind.of_option (option : TimeOption) :
    WordKind.of ('-' :: '-' :: option.word.toList) = .long option.word.toList none := by
  cases option with
  | timeout => decide
  | interval => decide

theorem WordKind.of_option_joined (option : TimeOption) (value : Text) :
    WordKind.of ('-' :: '-' :: (option.word.toList ++ '=' :: value)) = .long option.word.toList (some value) := by
  have split := Text.splitFirst_append option.no_equals value
  have some_letter : option.word.toList ++ '=' :: value ≠ [] :=
    List.append_ne_nil_of_right_ne_nil _ (List.cons_ne_nil _ _)
  obtain ⟨c, more, starts⟩ := List.exists_cons_of_ne_nil some_letter
  rw [starts] at split ⊢
  simp only [of, split]

theorem Verb.timeOption?_word {verb : Verb} (timed : verb.isTimed = true) (option : TimeOption) :
    verb.timeOption? option.word.toList = some option := by
  rw [timeOption?, if_pos timed, String.ofList_toList]
  cases option with
  | timeout => decide
  | interval => decide

namespace Given

/-- A time behind the verb of a command that waits is taken in first. -/
theorem addWords_spelled {value : Text} {spelling : List Text} (timed : verb.isTimed = true)
    (spelled : option.Spelled value spelling) (words : List Text) (given : Given) :
    addWords verb (spelling ++ words) given = given.addTime option value >>= addWords verb words := by
  have no_kill : verb ≠ .kill := by
    rintro rfl
    cases timed
  have no_negative (word : Text) : ¬(verb = .kill && given.operands.isEmpty && isNegative word) = true := by
    simp [no_kill]
  cases spelled with
  | apart =>
    rw [List.cons_append, addWords, if_neg (no_negative _), WordKind.of_option]
    simp only [Verb.timeOption?_word timed]
    rfl
  | joined =>
    rw [List.cons_append, addWords, if_neg (no_negative _), WordKind.of_option_joined]
    simp only [Verb.timeOption?_word timed]
    rfl

end Given

/-- The command of a verb, with a time more. -/
theorem Verb.command_withTime {verb : Verb} {given : Given} {command : Command} {timing : Timing}
    (made : verb.command given = .ok command) (timed : command.timing? = some timing) (option : TimeOption)
    (time : UInt64) : verb.isTimed = true ∧ given.timing = timing ∧
      verb.command (given.withTime option time) = .ok (command.withTime option time) := by
  have same_operands : (given.withTime option time).operands = given.operands := rfl
  unfold Verb.command at made ⊢
  rw [same_operands]
  split at made
  next =>
    cases made
    cases timed
  next =>
    cases made
    cases timed
  next =>
    cases made
    cases timed
    exact ⟨rfl, rfl, rfl⟩
  next =>
    cases made
    cases timed
    exact ⟨rfl, rfl, rfl⟩
  next =>
    cases made
    cases timed
    exact ⟨rfl, rfl, rfl⟩
  next =>
    cases made
    cases timed
  next =>
    cases made
    cases timed
  next => cases made

namespace Invocation

/-- **A line has a verb**, with words in front of it and behind it. What stands behind it is read from nothing, and other
words there that give the same flags are read as the same but for the command. -/
def HasVerb (read : List Text → Except Halt Invocation) (words : List Text) (invocation : Invocation) : Prop :=
  ∃ (front : List Text) (verb : Verb) (behind : List Text) (given : Given),
    words = front ++ verb.word.toList :: behind ∧ Given.addWords verb behind .empty = .ok given ∧
    verb.command given = .ok invocation.command ∧
    ∀ behind' given' command, Given.addWords verb behind' .empty = .ok given' → given'.flags = given.flags →
      verb.command given' = .ok command →
      read (front ++ verb.word.toList :: behind') = .ok { invocation with command := command }

/-- So has one with a word more in front, which is taken in first. -/
theorem HasVerb.after_word {read read_on : List Text → Except Halt Invocation} {word : Text} {words : List Text}
    {invocation : Invocation} (has_verb : HasVerb read_on words invocation)
    (step : ∀ rest, read (word :: rest) = read_on rest) : HasVerb read (word :: words) invocation := by
  obtain ⟨front, verb, behind, given, rfl, taken, made, replace⟩ := has_verb
  refine ⟨word :: front, verb, behind, given, rfl, taken, made, fun behind' given' command taken' flags made' => ?_⟩
  rw [List.cons_append, step]
  exact replace behind' given' command taken' flags made'

theorem hasVerb_of_readAfter {words : List Text} {invocation : Invocation} : ∀ {so_far : Given},
    readAfter so_far words = .ok invocation → HasVerb (readAfter so_far) words invocation := by
  induction words with
  | nil => exact fun accepted => nomatch accepted
  | cons word words ih =>
    intro so_far accepted
    cases kind : WordKind.of word with
    | terminator =>
      rw [readAfter, kind] at accepted
      cases accepted
    | operand =>
      cases named : Verb.ofWord? word with
      | none =>
        simp only [readAfter, kind, named] at accepted
        cases accepted
      | some verb =>
        have step (rest : List Text) : readAfter so_far (word :: rest) = (do
            let behind ← Given.addWords verb rest .empty
            let command ← verb.command behind
            return ⟨command, so_far.has .json || behind.has .json, so_far.has .verbose || behind.has .verbose⟩) := by
          simp only [readAfter, kind, named]
        obtain rfl : verb.word.toList = word := by simpa using List.find?_some named
        rw [step] at accepted
        obtain ⟨given, taken, accepted⟩ := exists_of_bind_eq_ok accepted
        obtain ⟨command, made, accepted⟩ := exists_of_bind_eq_ok accepted
        cases accepted
        refine ⟨[], verb, words, given, rfl, taken, made, fun behind' given' command' taken' flags made' => ?_⟩
        have same (flag : Flag) : given'.has flag = given.has flag := by rw [Given.has, flags, Given.has]
        rw [List.nil_append, step, taken', ← same, ← same]
        show (verb.command given' >>= _) = _
        rw [made']
        rfl
    | letters letters =>
      have step (rest : List Text) : readAfter so_far (word :: rest) =
          so_far.addLetters none letters >>= fun next => readAfter next rest := by
        rw [readAfter, kind]
      rw [step] at accepted
      obtain ⟨next, taken, accepted⟩ := exists_of_bind_eq_ok accepted
      exact (ih accepted).after_word fun rest => by rw [step, taken]; rfl
    | long name value =>
      have step (rest : List Text) : readAfter so_far (word :: rest) =
          so_far.addWord none name value >>= fun next => readAfter next rest := by
        rw [readAfter, kind]
      rw [step] at accepted
      obtain ⟨next, taken, accepted⟩ := exists_of_bind_eq_ok accepted
      exact (ih accepted).after_word fun rest => by rw [step, taken]; rfl

/-- **A line with a time that it leaves out.** -/
theorem read_with_time {words : List Text} {invocation : Invocation} {timing : Timing} {option : TimeOption}
    (accepted : read words = .ok invocation) (timed : invocation.command.timing? = some timing)
    (omitted : timing.get option = none) :
    ∃ (front : List Text) (verb : Verb) (behind : List Text), words = front ++ verb.word.toList :: behind ∧
      ∀ value n spelling,
      Numeral.readBelow? Numeral.limit64 value = some n → option.Spelled value spelling →
      read (front ++ verb.word.toList :: (spelling ++ behind)) =
        .ok { invocation with command := invocation.command.withTime option (.ofNat n) } := by
  obtain ⟨front, verb, behind, given, rfl, taken, made, replace⟩ := hasVerb_of_readAfter accepted
  refine ⟨front, verb, behind, rfl, fun value n spelling number spelled => ?_⟩
  obtain ⟨is_timed, rfl, made_with⟩ := Verb.command_withTime made timed option (.ofNat n)
  refine replace _ (given.withTime option (.ofNat n)) _ ?_ rfl made_with
  obtain ⟨absent, taken_with⟩ := Given.takesAlong_addWords verb behind (.ofNat n) taken omitted
  rw [Given.addWords_spelled is_timed spelled, Given.addTime_eq_ok_iff.mpr ⟨n, number, absent, rfl⟩]
  exact taken_with

end Invocation

end PortRelease
