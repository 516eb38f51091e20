import RecordSearch.Text.Basic

/-! What the commands of a program take: options in any order, and arguments in a fixed one. -/
namespace RecordSearch.Command

inductive Takes where
  | nothing
  | text
  | integer
  /-- The path of a file, which may have to be there. -/
  | path (present : Bool)
  | choice (names : List Text)
  deriving DecidableEq, Repr

structure OptionSpec where
  name : Text
  letter : Option Char := none
  takes : Takes := .nothing
  /-- Whether each use of the option counts, and not only the last. -/
  repeats : Bool := false
  help : Text
  deriving DecidableEq, Repr

structure ArgumentSpec where
  name : Text
  required : Bool := true
  deriving DecidableEq, Repr

structure CommandSpec where
  call : List Text
  about : List Text
  arguments : List ArgumentSpec := []
  options : List OptionSpec
  inner : List (Text × Text) := []
  deriving DecidableEq, Repr

namespace OptionSpec

def of (name : String) (letter : Option Char) (takes : Takes) (help : String) : OptionSpec :=
  { name := name.toList, letter, takes, help := help.toList }

def longForm (option : OptionSpec) : Text := '-' :: '-' :: option.name

def shortForm? (option : OptionSpec) : Option Text := option.letter.map fun letter => ['-', letter]

def placeholder (option : OptionSpec) : Text :=
  match option.takes with
  | .nothing => []
  | .text => " TEXT".toList
  | .integer => " INTEGER".toList
  | .path _ => " PATH".toList
  | .choice names => " [".toList ++ Text.join ['|'] names ++ [']']

end OptionSpec

def helpOption : OptionSpec := .of "help" none .nothing "Show this message and exit."

def versionOption : OptionSpec := .of "version" none .nothing "Show the version and exit."

end RecordSearch.Command
