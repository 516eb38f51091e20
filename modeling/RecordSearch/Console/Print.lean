import RecordSearch.Console.Wrap
import RecordSearch.Markup.Basic
import RecordSearch.Markup.Picture

/-! Printing marked text. -/
namespace RecordSearch.Console

def screenWidth : Nat := 120

def shown (markup : Text) : Text := plain ((Markup.stretches markup).flatMap Markup.withPictures)

def endLines (lines : List Text) : Text := lines.flatMap fun line => line ++ ['\n']

def print (markup : Text) : Text := endLines (wrap screenWidth .fold (shown markup))

end RecordSearch.Console
