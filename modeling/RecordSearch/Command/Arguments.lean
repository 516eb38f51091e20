import RecordSearch.Command.Usage
import RecordSearch.Files.Access
import RecordSearch.Text.DigitRanges

/-! Reading what a command is called with. Options may be joined with their values by a sign of
equality, letters may be joined with each other and with a value, and behind two dashes nothing is
an option. -/
namespace RecordSearch.Command

structure Given where
  options : List (OptionSpec × Text) := []
  words : List Text := []
  deriving DecidableEq, Repr

namespace Given

def has (given : Given) (name : String) : Bool :=
  given.options.any fun member => member.1.name == name.toList

def values (given : Given) (name : String) : List Text :=
  (given.options.filter fun member => member.1.name == name.toList).map Prod.snd

def value? (given : Given) (name : String) : Option Text := (given.values name).getLast?

def word (given : Given) (place : Nat) : Text := given.words.getD place []

end Given

namespace CommandSpec

def longOption? (spec : CommandSpec) (form : Text) : Option OptionSpec :=
  spec.options.find? fun option => option.longForm == form

def letterOption? (spec : CommandSpec) (letter : Char) : Option OptionSpec :=
  spec.options.find? fun option => option.letter == some letter

/-- The options that joined letters stand for. What follows the letter of an option with a value is
its value; if nothing does, the option still waits for it. -/
def letters (spec : CommandSpec) : Text →
    Except UsageFault (List (OptionSpec × Text) × Option OptionSpec)
  | [] => .ok ([], none)
  | letter :: rest =>
    match spec.letterOption? letter with
    | none => .error (.noSuchOption ['-', letter] [])
    | some option =>
      if option.takes ≠ .nothing then
        .ok (if rest.isEmpty then ([], some option) else ([(option, rest)], none))
      else (letters spec rest).map fun (options, waiting) => ((option, []) :: options, waiting)

/-- The options that a word stands for, and the one that still waits for its value. -/
def optionsOf (spec : CommandSpec) (word : Text) :
    Except UsageFault (List (OptionSpec × Text) × Option OptionSpec) :=
  match word with
  | '-' :: '-' :: _ =>
    let form := word.takeWhile (· != '=')
    match spec.longOption? form with
    | none => .error (.noSuchOption form (closest form (spec.options.map OptionSpec.longForm)))
    | some option =>
      match option.takes, word.dropWhile (· != '=') with
      | .nothing, [] => .ok ([(option, [])], none)
      | .nothing, _ :: _ => .error (.takesNoValue form)
      | _, [] => .ok ([], some option)
      | _, _ :: value => .ok ([(option, value)], none)
  | _ => spec.letters (word.drop 1)

def waitingForm (word : Text) : Text :=
  match word with
  | '-' :: '-' :: _ => word
  | _ => '-' :: (word.getLast?.toList)

def isOption (word : Text) : Bool := word.head? == some '-' && word.length != 1

/-- What a command is called with. Options may stand between other words, unless the first of these
begins another command. -/
def read (spec : CommandSpec) : List Text → Except UsageFault Given
  | [] => .ok {}
  | word :: rest =>
    if word = ['-', '-'] then .ok { words := rest }
    else if isOption word then
      match spec.optionsOf word with
      | .error fault => .error fault
      | .ok (options, none) =>
        (read spec rest).map fun given => { given with options := options ++ given.options }
      | .ok (options, some waiting) =>
        match rest with
        | [] => .error (.lacksValue (waitingForm word))
        | value :: behind =>
          (read spec behind).map fun given =>
            { given with options := options ++ (waiting, value) :: given.options }
    else if spec.inner.isEmpty then
      (read spec rest).map fun given => { given with words := word :: given.words }
    else .ok { words := word :: rest }

end CommandSpec

/-- The integer that a text writes in the digits of any script: blanks around it and single
underscores between its digits say nothing. -/
def integer? (text : Text) : Option Int :=
  let trimmed := Text.trim text
  let (negative, body) := match trimmed with
    | '-' :: rest => (true, rest)
    | '+' :: rest => (false, rest)
    | _ => (false, trimmed)
  let parts := Text.splitAt (· == '_') body
  if parts.any List.isEmpty then none
  else do
    let digits ← parts.flatten.mapM Text.decimalDigit?
    let size : Int := (digits.foldl (fun value digit => 10 * value + digit) 0 : Nat)
    return if negative then -size else size

inductive Interruption where
  | help
  | version
  | fault (fault : UsageFault)
  deriving DecidableEq, Repr

section

variable {m : Type → Type} [Monad m]

def valueFault? (files : FileAccess m) (takes : Takes) (value : Text) : m (Option ValueFault) := do
  match takes with
  | .nothing | .text | .path false => return none
  | .integer => return if (integer? value).isSome then none else some (.notInteger value)
  | .choice names => return if names.contains value then none else some (.notChoice value names)
  | .path true =>
    return if value.isEmpty || !(← files.isThere (FilePath.ofText value))
      then some (.noSuchPath value) else none

def optionFault? (files : FileAccess m) (option : OptionSpec) : List Text → m (Option UsageFault)
  | [] => return none
  | value :: rest => do
    match ← valueFault? files option.takes value with
    | some fault => return some (.invalidValue option fault)
    | none => optionFault? files option rest

/-- The first fault among the options that are given, in the order of their first uses. -/
def optionsFault? (files : FileAccess m) (given : Given) : List OptionSpec → m (Option UsageFault)
  | [] => return none
  | option :: rest => do
    let values := (given.options.filter fun member => member.1 == option).map Prod.snd
    match ← optionFault? files option
        (if option.repeats then values else values.getLast?.toList) with
    | some fault => return some fault
    | none => optionsFault? files given rest

def wordsFault? (spec : CommandSpec) (given : Given) : Option UsageFault :=
  match (spec.arguments.drop given.words.length).find? ArgumentSpec.required,
      given.words.drop spec.arguments.length with
  | some argument, _ => some (.missingArgument argument.name)
  | none, [] => none
  | none, extra => if spec.inner.isEmpty then some (.extraArguments extra) else none

/-- What keeps a command from running: a question about it, which comes before every fault of a
value, or a fault. -/
def interruption? (files : FileAccess m) (spec : CommandSpec) (given : Given) :
    m (Option Interruption) := do
  match given.options.find? fun member => member.1 == helpOption || member.1 == versionOption with
  | some (option, _) => return some (if option = helpOption then .help else .version)
  | none =>
    match ← optionsFault? files given (given.options.map Prod.fst).eraseDups with
    | some fault => return some (.fault fault)
    | none => return (wordsFault? spec given).map .fault

def accept (files : FileAccess m) (spec : CommandSpec) (words : List Text) :
    m (Except Interruption Given) := do
  match spec.read words with
  | .error fault => return .error (.fault fault)
  | .ok given =>
    match ← interruption? files spec given with
    | some interruption => return .error interruption
    | none => return .ok given

end

end RecordSearch.Command
