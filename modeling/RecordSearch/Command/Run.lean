import RecordSearch.Command.Arguments
import RecordSearch.Command.Catalogue
import RecordSearch.Command.Log
import RecordSearch.Command.Settings
import RecordSearch.Command.Show

/-! Running the program. A run reads files through the access that it is given, and ends with what
it prints, what it prints about faults, and a number that says how it went. -/
namespace RecordSearch.Command

inductive Ending where
  | done
  /-- What was asked for is not so. -/
  | refused
  | misused (fault : UsageFault)
  | failed (failure : Failure)
  deriving DecidableEq, Repr

structure Report where
  out : Text := []
  notes : List Note := []
  ending : Ending := .done

/-- What a run printed, on both channels, the number that it ended with, and the failure that it
passed on. -/
structure Outcome where
  out : Text := []
  err : Text := []
  code : Nat := 0
  passedOn : Option Failure := none

structure World (m : Type → Type) where
  environment : Environment
  defaults : RecordDefaults
  files : FileAccess m
  stamp : Text

namespace Report

def ofFailure (failure : Failure) (notes : List Note) : Report :=
  { ending := .failed failure, notes }

def ofSearch (notes : List Note) : Except SearchError Report → Report
  | .ok report => { report with notes := notes }
  | .error error => ofFailure (.search error) notes

end Report

section

variable {m : Type → Type} [Monad m]

/-- The collection that a command searches, and the value that says how many completions there
are. -/
def serviceOf (world : World m) (settings : Settings) :
    m (Except Ending (Service × Yaml.Value)) := do
  match settings.records with
  | none => return .error (.misused .noRecords)
  | some path =>
    match settings.sortOrder with
    | .error fault => return .error (.failed (.setting fault))
    | .ok defaultSort =>
      match ← Record.load world.files world.defaults path, settings.limit with
      | .error error, _ => return .error (.failed (.load error))
      | .ok _, .error fault => return .error (.failed (.setting fault))
      | .ok records, .ok limit => return .ok ({ records, defaultSort }, limit)

end

def dateFault? (given : Given) : List OptionSpec → Except SearchError (Option UsageFault)
  | [] => .ok none
  | option :: rest => do
    let value := given.value? (String.ofList option.name)
    if ← DateRange.isReadable value then dateFault? given rest
    else return some (.notDate option (value.getD []))

def requestOf (given : Given) (service : Service) : SearchRequest :=
  let types := given.values "type"
  let tags := given.values "tag"
  let range : DateRange := ⟨given.value? "from", given.value? "to"⟩
  let order := given.value? "sort"
  let direction := given.value? "order"
  { text := given.word 0
    filters :=
      if types.isEmpty && tags.isEmpty && range.isOpen then none
      else some ⟨types, tags, some range⟩
    sort := if order.isNone && direction.isNone then none else some {
      field := order.getD service.defaultSort.field,
      direction := direction.getD service.defaultSort.direction }
    strict := given.has "strict" }

/-- The report of a search. A query that fails its check is shown as one, unless it asks for
everything. -/
def searchReport (given : Given) (service : Service) : Report :=
  let request := requestOf given service
  Report.ofSearch (Note.ofSearch service request) do
    let outcome ← service.search request
    let shown := !outcome.verdict.isValid && (request.strict || !Text.isBlankText request.text)
    let fault := if !shown then []
      else if request.strict then Show.queryFault "red" "Invalid query:" outcome.verdict
      else Show.queryFault "yellow" "Warning:" outcome.verdict
    if shown && request.strict then return { out := fault, ending := .refused }
    else
      return {
        out := fault ++ Show.results request.text outcome.records
          (((given.value? "limit").bind integer?).getD 20) }

/-- The report of a command that completes a query. The limit is looked at only when there is
something to limit. -/
def suggestReport (given : Given) (service : Service) (limit : Yaml.Value) : Report :=
  let text := given.word 0
  let hints := if given.has "syntax" then syntaxHints text else []
  match Settings.limitOf limit with
  | .error fault =>
    if (Text.lower (Text.lastToken text)).length < minTokenLength then
      { out := Show.suggestions [] hints }
    else Report.ofFailure (.setting fault) []
  | .ok limit => Report.ofSearch [] do
    let completions ← { service with suggestionLimit := limit }.suggest text
    return { out := Show.suggestions completions hints }

def validateReport (given : Given) : Report :=
  let verdict := Query.validate (given.word 0)
  { out := Show.verdict verdict, ending := if verdict.isValid then .done else .refused }

def highlightReport (given : Given) (settings : Settings) : Report :=
  match settings.tag with
  | .error fault => Report.ofFailure (.setting fault) []
  | .ok tag => { out := highlight (Marker.ofTag tag none) (given.word 0) (given.word 1) ++ ['\n'] }

def explainReport (given : Given) : Report :=
  let query := Query.parse (given.word 0)
  Report.ofSearch (Note.ofParsing (given.word 0)) do
    return { out := Show.explanation query (← query.toSql) }

section

variable {m : Type → Type} [Monad m]

def withService (world : World m) (settings : Settings)
    (report : Service → Yaml.Value → Report) : m Report := do
  match ← serviceOf world settings with
  | .error ending => return { ending }
  | .ok (service, limit) => return report service limit

def report (world : World m) (settings : Settings) (given : Given) : Name → m Report
  | .search => do
    match dateFault? given [fromOption, toOption] with
    | .error error => return Report.ofFailure (.search error) []
    | .ok (some fault) => return { ending := .misused fault }
    | .ok none => withService world settings fun service _ => searchReport given service
  | .suggest => withService world settings (suggestReport given)
  | .validate => return validateReport given
  | .highlight => return highlightReport given settings
  | .explain => return explainReport given

end

namespace Outcome

def misused (spec : CommandSpec) (fault : UsageFault) : Outcome :=
  { err := Console.endLines (UsageFault.page spec fault), code := 2 }

def interrupted (spec : CommandSpec) : Interruption → Outcome
  | .help => { out := Console.endLines spec.page }
  | .version => { out := "kb version ".toList ++ version ++ ['\n'] }
  | .fault fault => misused spec fault

/-- A failure before there are settings. -/
def early (message : Text) : Outcome := { err := "Error: ".toList ++ message ++ ['\n'], code := 1 }

def ofReport (spec : CommandSpec) (logging : Logging) (debug : Bool) (report : Report) : Outcome :=
  let noted := logging.lines report.notes
  match report.ending with
  | .done => { out := report.out, err := noted }
  | .refused => { out := report.out, err := noted, code := 1 }
  | .misused fault =>
    let outcome := misused spec fault
    { outcome with out := report.out, err := noted ++ outcome.err }
  | .failed failure =>
    if debug then { out := report.out, err := noted, code := 1, passedOn := some failure }
    else { out := report.out ++ Show.error "Error:" failure.message, err := noted, code := 1 }

end Outcome

/-- How the notes of a run are written. Quiet runs note nothing that does not matter more. -/
def loggingOf (given : Given) (stamp : Text) : Logging where
  shown :=
    if given.has "quiet" then []
    else if given.has "verbose" || given.has "debug" then [.debug, .info] else [.info]
  stamp := if given.has "debug" then some stamp else none

section

variable {m : Type → Type} [Monad m]

def runCommand (world : World m) (given : Given) (name : Name) (words : List Text) : m Outcome := do
  let debug := given.has "debug"
  match ← Config.load world.files world.environment
      ((given.value? "config").map FilePath.ofText) with
  | .error error =>
    return if error.isOfFile && !debug then
        { out := Show.error "Error loading config file:" error.message, code := 1 }
      else Outcome.early error.message
  | .ok config =>
    match Settings.recordsPath world.environment config (given.value? "records") with
    | .error fault => return Outcome.early fault.message
    | .ok records =>
      match ← accept world.files name.spec words with
      | .error interruption => return Outcome.interrupted name.spec interruption
      | .ok inner =>
        let done ← report world { config, records, debug } inner name
        return Outcome.ofReport name.spec (loggingOf given world.stamp) debug done

/-- What becomes of words that begin with no command. Those that look like options are read as such
once more. -/
def withoutCommand (world : World m) (words : List Text) : m Outcome := do
  let name := words.headD []
  let fault :=
    Outcome.misused programSpec
      (.noSuchCommand name (closest name (programSpec.inner.map Prod.fst)))
  if CommandSpec.isOption name then
    match ← accept world.files programSpec words with
    | .error interruption => return Outcome.interrupted programSpec interruption
    | .ok _ => return fault
  else return fault

/-- Runs the program with the words of a call. -/
def run (world : World m) (words : List Text) : m Outcome := do
  if words.isEmpty then return { err := Console.endLines programSpec.page, code := 2 }
  else
    match ← accept world.files programSpec words with
    | .error interruption => return Outcome.interrupted programSpec interruption
    | .ok given =>
      match given.words with
      | [] => return Outcome.misused programSpec .missingCommand
      | name :: rest =>
        match Name.ofText? name with
        | some command => runCommand world given command rest
        | none => withoutCommand world given.words

end

end RecordSearch.Command
