import RecordSearch.Command.Spec
import RecordSearch.Text.Blank

/-! The page that describes a command. -/
namespace RecordSearch.Command

def pageWidth : Nat := 80

/-- The widest name that has its description on the same line. -/
def widestName : Nat := 30

/-- Words in lines of at most `width` characters, given the line that is being filled. -/
def fill (width : Nat) : (line : Text) → List Text → List Text
  | line, [] => [line]
  | line, word :: rest =>
    if line.isEmpty then fill width word rest
    else if line.length + 1 + word.length ≤ width then fill width (line ++ ' ' :: word) rest
    else line :: fill width word rest

def paragraph (text : Text) : List Text :=
  (fill (pageWidth - 2) [] (Text.words text)).map fun line => ' ' :: ' ' :: line

/-- Names with their descriptions behind them, at one distance from the margin. Behind a longer name
the description has a line of its own. -/
def definitions (entries : List (Text × Text)) : List Text :=
  let widest := min widestName ((entries.map fun entry => entry.1.length).foldl max 0)
  entries.flatMap fun (name, text) =>
    if name.length ≤ widest then
      ["  ".toList ++ name ++ List.replicate (widest - name.length + 2) ' ' ++ text]
    else ["  ".toList ++ name, List.replicate (widest + 4) ' ' ++ text]

namespace CommandSpec

def argumentWord (argument : ArgumentSpec) : Text :=
  if argument.required then argument.name else '[' :: argument.name ++ [']']

def usageLine (spec : CommandSpec) : Text :=
  let behind :=
    if spec.inner.isEmpty then spec.arguments.map argumentWord
    else ["COMMAND".toList, "[ARGS]...".toList]
  Text.join [' '] (["Usage:".toList] ++ spec.call ++ ["[OPTIONS]".toList] ++ behind)

def optionForms (option : OptionSpec) : Text :=
  Text.join ", ".toList (option.shortForm?.toList ++ [option.longForm]) ++ option.placeholder

def page (spec : CommandSpec) : List Text :=
  [spec.usageLine] ++ spec.about.flatMap (fun text => [] :: paragraph text) ++
    [[], "Options:".toList] ++
    definitions (spec.options.map fun option => (optionForms option, option.help)) ++
    (if spec.inner.isEmpty then [] else [[], "Commands:".toList] ++ definitions spec.inner)

end CommandSpec
end RecordSearch.Command
