import RecordSearch.Command.Failure
import RecordSearch.Search.Sorting

/-! The settings that commands use. -/
namespace RecordSearch.Command

structure Settings where
  config : Config
  records : Option FilePath
  debug : Bool

namespace Settings

def part (settings : Settings) (name : String) : Except SettingFault Config :=
  match settings.config.get? name.toList with
  | none => .ok []
  | some (.map members) => .ok members
  | some value => .error (.notMapping value.fullKind)

def setting (members : Config) (name : String) (fallback : Yaml.Value) : Yaml.Value :=
  (members.get? name.toList).getD fallback

def sortField (value : Yaml.Value) : Except SettingFault SortField :=
  match value with
  | .text name => (SortField.ofName? name).elim (.error (.noSortField value.quoted)) .ok
  | _ => .error (.noSortField value.quoted)

def sortDirection (value : Yaml.Value) : Except SettingFault SortDirection :=
  match value with
  | .text name => (SortDirection.ofName? name).elim (.error (.noSortDirection value.quoted)) .ok
  | _ => .error (.noSortDirection value.quoted)

def sortOrder (settings : Settings) : Except SettingFault SortOrder := do
  let search ← settings.part "search"
  let field ← sortField (setting search "sort_field" (.text SortField.updatedAt.name))
  let direction ← sortDirection
    (setting search "sort_direction" (.text SortDirection.descending.name))
  return { field := field.name, direction := direction.name }

def limitOf (value : Yaml.Value) : Except SettingFault (Option Int) :=
  match value with
  | .null => .ok none
  | .int limit => .ok (some limit)
  | .bool limit => .ok (some (if limit then 1 else 0))
  | _ => .error .noLimit

def limit (settings : Settings) : Except SettingFault Yaml.Value :=
  (settings.part "suggestions").map fun suggestions => setting suggestions "limit" (.int 10)

def tag (settings : Settings) : Except SettingFault Text :=
  (settings.part "highlight").map fun highlight =>
    (setting highlight "tag" (.text "mark".toList)).toText

/-- A path in which a tilde at the beginning is the home of the user. The homes of others are not
known. -/
def expandHome (environment : Environment) (path : FilePath) : Except SettingFault FilePath :=
  match path.root.isEmpty, path.parts with
  | true, ('~' :: user) :: rest =>
    if user.isEmpty then
      .ok (FilePath.ofText (if environment.home.isEmpty then ['/'] else environment.home) ++
        ⟨[], rest⟩)
    else .error .unknownHome
  | _, _ => .ok path

/-- The file with the records: the one that the call names, or else the one that the settings
name. -/
def recordsPath (environment : Environment) (config : Config) (given : Option Text) :
    Except SettingFault (Option FilePath) :=
  match given, (config.get? "records".toList).filter fun value => !value.isNothing with
  | some path, _ => .ok (some (FilePath.ofText path))
  | none, none => .ok none
  | none, some (.text path) => (expandHome environment (FilePath.ofText path)).map some
  | none, some (.bytes _) => .error .bytesPath
  | none, some value => .error (.notPath value.kind)

end Settings
end RecordSearch.Command
