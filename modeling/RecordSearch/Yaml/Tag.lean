import RecordSearch.Yaml.Moment
import RecordSearch.Yaml.Number

/-! What the nodes of a YAML document are said to be, by a tag or by the form of a plain scalar. -/
namespace RecordSearch.Yaml

inductive Tag where
  | null
  | bool
  | int
  | float
  | bytes
  | moment
  | text
  | list
  | ordered
  | pairs
  | set
  | map
  /-- The name of the mappings that a mapping takes over. -/
  | merge
  /-- The name of the default value of a mapping. -/
  | value
  | unknown
  deriving DecidableEq, Repr

namespace Tag

def common : Text := "tag:yaml.org,2002:".toList

def words : List (Text × Tag) :=
  [("null".toList, .null), ("bool".toList, .bool), ("int".toList, .int), ("float".toList, .float),
    ("binary".toList, .bytes), ("timestamp".toList, .moment), ("str".toList, .text),
    ("seq".toList, .list), ("omap".toList, .ordered), ("pairs".toList, .pairs),
    ("set".toList, .set), ("map".toList, .map), ("merge".toList, .merge), ("value".toList, .value)]

def ofName (name : Text) : Tag :=
  if common.isPrefixOf name then (words.lookup (name.drop common.length)).getD .unknown
  else .unknown

def nullWords : List Text := ["~", "null", "Null", "NULL", ""].map String.toList

def yesWords : List Text :=
  ["yes", "Yes", "YES", "true", "True", "TRUE", "on", "On", "ON"].map String.toList

def noWords : List Text :=
  ["no", "No", "NO", "false", "False", "FALSE", "off", "Off", "OFF"].map String.toList

/-- What a plain scalar is by its form. -/
def ofPlain (text : Text) : Tag :=
  if nullWords.contains text then .null
  else if yesWords.contains text || noWords.contains text then .bool
  else if Number.isFloat text then .float
  else if Number.isInt text then .int
  else if WrittenMoment.isMoment text then .moment
  else if text = ['<', '<'] then .merge
  else if text = ['='] then .value
  else .text

end Tag
end RecordSearch.Yaml
