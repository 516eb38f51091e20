import RecordSearch.Command.Closest
import RecordSearch.Command.Help

/-! Calls of a command that are not as it takes them. -/
namespace RecordSearch.Command

inductive ValueFault where
  | notInteger (value : Text)
  | notChoice (value : Text) (names : List Text)
  | noSuchPath (value : Text)
  deriving DecidableEq, Repr

inductive UsageFault where
  /-- An option that there is not, with those that may have been meant. -/
  | noSuchOption (form : Text) (meant : List Text)
  | lacksValue (form : Text)
  | takesNoValue (form : Text)
  | invalidValue (option : OptionSpec) (fault : ValueFault)
  | notDate (option : OptionSpec) (value : Text)
  | missingArgument (name : Text)
  | extraArguments (words : List Text)
  | missingCommand
  /-- A command that there is not, with those that may have been meant. -/
  | noSuchCommand (name : Text) (meant : List Text)
  | noRecords
  deriving DecidableEq, Repr

namespace ValueFault

def message : ValueFault → Text
  | .notInteger value => Text.quoted value ++ " is not a valid integer.".toList
  | .notChoice value names =>
    Text.quoted value ++ " is not one of ".toList ++
      Text.join ", ".toList (names.map Text.quoted) ++ ['.']
  | .noSuchPath value => "Path ".toList ++ Text.quoted value ++ " does not exist.".toList

end ValueFault

namespace UsageFault

def inQuotes (text : Text) : Text := singleQuote :: text ++ [singleQuote]

def optionHint (option : OptionSpec) : Text :=
  Text.join " / ".toList (([option.longForm] ++ option.shortForm?.toList).map inQuotes)

def notDateText (value : Text) : Text :=
  inQuotes value ++ " is not an ISO-8601 date (e.g. 2024-01-31)".toList

def message : UsageFault → Text
  | .noSuchOption form meant =>
    "No such option ".toList ++ Text.quoted form ++ '.' :: meantText meant
  | .lacksValue form => "Option ".toList ++ Text.quoted form ++ " requires an argument.".toList
  | .takesNoValue form => "Option ".toList ++ Text.quoted form ++ " does not take a value.".toList
  | .invalidValue option fault =>
    "Invalid value for ".toList ++ optionHint option ++ ": ".toList ++ fault.message
  | .notDate option value =>
    "Invalid value for ".toList ++ option.longForm ++ ": ".toList ++ notDateText value
  | .missingArgument name => "Missing argument ".toList ++ inQuotes name ++ ['.']
  | .extraArguments words =>
    "Got unexpected extra argument".toList ++ (if words.length = 1 then [] else ['s']) ++
      " (".toList ++ Text.join [' '] words ++ [')']
  | .missingCommand => "Missing command.".toList
  | .noSuchCommand name meant =>
    "No such command ".toList ++ Text.quoted name ++ '.' :: meantText meant
  | .noRecords => "No records file given; use --records or set KBASE_RECORDS".toList

def page (spec : CommandSpec) (fault : UsageFault) : List Text :=
  [spec.usageLine,
    "Try ".toList ++ inQuotes (Text.join [' '] (spec.call ++ [helpOption.longForm])) ++
      " for help.".toList,
    [],
    "Error: ".toList ++ fault.message]

end UsageFault
end RecordSearch.Command
