import RecordSearch.Command.Spec
import RecordSearch.Search.Sorting

/-! The commands of the program. -/
namespace RecordSearch.Command

def version : Text := "1.0.0".toList

/-- The word that calls the program in its own messages. -/
def programName : Text := "cli".toList

def commandOf (name : String) (about : List String) (arguments : List ArgumentSpec)
    (options : List OptionSpec) : CommandSpec :=
  { call := [programName, name.toList], about := about.map String.toList, arguments,
    options := options ++ [helpOption] }

def argument (name : String) : ArgumentSpec := { name := name.toList }

def fromOption : OptionSpec := .of "from" none .text "Created on or after this date"

def toOption : OptionSpec := .of "to" none .text "Created on or before this date"

def searchSpec : CommandSpec :=
  commandOf "search"
    ["Search records.",
      "Supports the query syntax:
    - Fields: title:\"react hooks\", content:api, tags:react,vue, type:note
    - Dates: created:>2024-01-01, updated:<=2024-06-30, created:=2024-03-15
    - Connectives: AND, OR, NOT (recognized, all clauses must match)
    - Anything else is searched in titles, content and tags"]
    [{ name := "QUERY".toList, required := false }]
    [{ OptionSpec.of "type" none (.choice (ContentType.all.map ContentType.name))
        "Only records of this content type" with
        repeats := true },
      { OptionSpec.of "tag" none .text "Only records with this tag" with repeats := true },
      fromOption, toOption,
      .of "sort" (some 's') (.choice (SortField.all.map SortField.name)) "Sort field",
      .of "order" none (.choice (SortDirection.all.map SortDirection.name)) "Sort direction",
      .of "limit" (some 'n') .integer "Maximum results to show",
      .of "strict" none .nothing "Refuse queries that fail validation"]

def suggestSpec : CommandSpec :=
  commandOf "suggest" ["Suggest completions for a partially typed query."] [argument "PARTIAL"]
    [.of "syntax" none .nothing "Also show matching query syntax"]

def validateSpec : CommandSpec :=
  commandOf "validate" ["Check a query for structural problems."] [argument "QUERY"] []

def highlightSpec : CommandSpec :=
  commandOf "highlight" ["Wrap occurrences of TERM in TEXT with the configured marker tag."]
    [argument "TEXT", argument "TERM"] []

def explainSpec : CommandSpec :=
  commandOf "explain" ["Show how a query is parsed and the equivalent SQL."] [argument "QUERY"] []

inductive Name where
  | explain
  | highlight
  | search
  | suggest
  | validate
  deriving DecidableEq, Repr

namespace Name

def all : List Name := [.explain, .highlight, .search, .suggest, .validate]

def spec : Name → CommandSpec
  | .explain => explainSpec
  | .highlight => highlightSpec
  | .search => searchSpec
  | .suggest => suggestSpec
  | .validate => validateSpec

def text (name : Name) : Text := name.spec.call.getLastD []

def ofText? (text : Text) : Option Name := all.find? fun name => name.text == text

end Name

/-- The program itself, which takes a command and the options that all commands share. -/
def programSpec : CommandSpec where
  call := [programName]
  about := ["Knowledge base search tool.",
    "Query records with field filters, date comparisons and free text."].map String.toList
  options := [
    .of "verbose" (some 'v') .nothing "Enable verbose output",
    .of "quiet" (some 'q') .nothing "Suppress non-error output",
    .of "no-color" none .nothing "Disable colored output",
    .of "debug" none .nothing "Enable debug mode with full tracebacks",
    .of "config" (some 'c') (.path true) "Path to configuration file",
    .of "records" (some 'r') (.path false) "JSON file holding the records to search",
    versionOption, helpOption]
  inner := Name.all.map fun name => (name.text, name.spec.about.headD [])

end RecordSearch.Command
