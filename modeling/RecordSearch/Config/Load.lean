import RecordSearch.Config.Basic
import RecordSearch.Files.Access
import RecordSearch.Yaml.Reader

/-! Settings from files and from the environment. -/
namespace RecordSearch

structure Environment where
  home : Text
  /-- Where configuration files are kept, if not in the home. -/
  configHome : Option Text := none
  records : Option Text := none

inductive ConfigError where
  | unreadable (error : FileError)
  | undecodable (error : Utf8.Error)
  | invalid (fault : Yaml.Fault)
  | notMapping (kind : Text)
  deriving DecidableEq, Repr

namespace ConfigError

def message : ConfigError → Text
  | .unreadable error => "Error reading config file: ".toList ++ error.message
  | .undecodable error => error.message
  | .invalid .malformed => "Invalid YAML in config file".toList
  | .invalid fault => fault.message
  | .notMapping kind => "Config file must contain a mapping, not ".toList ++ kind

/-- Whether the error is one of the file, so that a file that need not be there is passed over. A
scalar that is not what its tag says it is stops everything. -/
def isOfFile : ConfigError → Bool
  | .invalid (.notBool _) | .invalid .notMoment => false
  | _ => true

end ConfigError

namespace Config

/-- The settings that bytes state. Nothing, and what counts as nothing, states none. -/
def ofBytes (bytes : Bytes) : Except ConfigError Config :=
  match Utf8.decode bytes with
  | (_, some error) => .error (.undecodable error)
  | (text, none) =>
    match Yaml.read text with
    | .error fault => .error (.invalid fault)
    | .ok (.map members) => .ok members
    | .ok value => if value.isNothing then .ok [] else .error (.notMapping value.kind)

/-- The files that are looked for where none is named, those that decide last. -/
def locations (environment : Environment) : List FilePath :=
  let home := match environment.configHome with
    | some home => FilePath.ofText home
    | none => FilePath.ofText environment.home ++ FilePath.ofText ".config".toList
  [home ++ FilePath.ofText "kbase/config.yaml".toList, FilePath.ofText ".kbase.yaml".toList,
    FilePath.ofText "kbase.yaml".toList]

def ofEnvironment (environment : Environment) : Config :=
  match environment.records with
  | some records => if records.isEmpty then [] else named [("records", .text records)]
  | none => []

section

variable {m : Type → Type} [Monad m]

def ofFile (files : FileAccess m) (path : FilePath) : m (Except ConfigError Config) := do
  match ← files.bytes path with
  | .error error => return .error (.unreadable error)
  | .ok bytes => return ofBytes bytes

def ofPresent (files : FileAccess m) : List FilePath → m (Except ConfigError (List Config))
  | [] => return .ok []
  | path :: rest => do
    match ← ofFile files path with
    | .ok config => return (← ofPresent files rest).map (config :: ·)
    | .error error => if error.isOfFile then ofPresent files rest else return .error error

/-- The settings of a run: the defaults, the files, and the environment over them. A file that is
named takes the place of all others, and must be right. -/
def load (files : FileAccess m) (environment : Environment) (path : Option FilePath) :
    m (Except ConfigError Config) := do
  let stated ← match path with
    | some path => (fun config => config.map List.singleton) <$> ofFile files path
    | none => ofPresent files (locations environment)
  return stated.map fun configs => merge ([defaults] ++ configs ++ [ofEnvironment environment])

end

end Config
end RecordSearch
