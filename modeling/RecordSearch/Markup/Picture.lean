import RecordSearch.Json.Token
import RecordSearch.Markup.PictureNames
import RecordSearch.Text.Blank
import RecordSearch.Text.Lower

/-! Pictures by name. A name between two colons stands for its picture; behind the name may stand
whether it is meant as text or as a picture. -/
namespace RecordSearch.Markup

def entryPicture? (name entry : Text) : Option Text :=
  match Text.splitAt (· == '=') entry with
  | [other, codes] =>
    if other = name then
      some ((Text.splitAt (· == '-') codes).map fun code =>
        Char.ofNat ((Json.hexNumber? code).getD 0))
    else none
  | _ => none

def picture? (name : Text) : Option Text :=
  (Text.words pictureNames.toList).findSome? (entryPicture? (Text.lower name))

/-- The endings of a name that say how it is meant, with the character that says so too. -/
def variants : List (Text × Char) := [("-emoji".toList, '\ufe0f'), ("-text".toList, '\ufe0e')]

/-- The name between two colons without its ending, and the character that the ending stands for. -/
def splitVariant (name : Text) : Text × Text :=
  match variants.find? fun variant => variant.1.isSuffixOf name with
  | some (ending, sign) => (name.take (name.length - ending.length), [sign])
  | none => (name, [])

/-- What a name between two colons shows: its picture, or itself with its colons if there is
none. -/
def shownName (name : Text) : Text :=
  let (base, sign) := splitVariant name
  match picture? base with
  | some picture => picture ++ sign
  | none => ':' :: name ++ [':']

def beginsWithName (text : Text) : Bool :=
  (text.dropWhile fun c => c != ':' && !isBlank c).head? == some ':'

/-- A text with pictures in place of their names. The first characters may belong to a name already
found. -/
def replaceAfter : Nat → Text → Text
  | _, [] => []
  | skip + 1, _ :: rest => replaceAfter skip rest
  | 0, c :: rest =>
    if c == ':' && beginsWithName rest then
      let name := rest.takeWhile (· != ':')
      shownName name ++ replaceAfter (name.length + 1) rest
    else c :: replaceAfter 0 rest

def withPictures (text : Text) : Text := replaceAfter 0 text

end RecordSearch.Markup
