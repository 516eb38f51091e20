import RecordSearch.Yaml.Value

/-! Settings as mappings inside of mappings. Of several configurations the last that says something
decides it, and mappings are merged member by member. -/
namespace RecordSearch

abbrev Config := Named Yaml.Value

namespace Config

mutual
/-- A value over what was there before it. Only mappings keep something of a mapping before them. -/
def atop (before : Option Yaml.Value) : Yaml.Value → Yaml.Value
  | .map members =>
    match before with
    | some (.map base) => .map (mergeInto base members)
    | _ => .map members
  | value => value

/-- The settings `base` with the members of another mapping put over them one by one. -/
def mergeInto (base : Config) : List (Text × Yaml.Value) → Config
  | [] => base
  | (name, value) :: rest =>
    mergeInto (Named.set name (atop (Named.get? base name) value) base) rest
end

/-- The settings of several configurations, the later over the earlier. -/
def merge (configs : List Config) : Config := configs.foldl mergeInto []

def at? (config : Config) : List Text → Option Yaml.Value
  | [] => some (.map config)
  | [name] => Named.get? config name
  | name :: path =>
    match Named.get? config name with
    | some (.map members) => at? members path
    | _ => none

def named (members : List (String × Yaml.Value)) : Config :=
  members.map fun (name, value) => (name.toList, value)

def defaults : Config := named [
  ("records", .null),
  ("search", .map (named [
    ("sort_field", .text "updated_at".toList), ("sort_direction", .text "desc".toList)])),
  ("suggestions", .map (named [("limit", .int 10)])),
  ("highlight", .map (named [("tag", .text "mark".toList)]))]

end Config
end RecordSearch
