import RecordSearch.Console.Panel
import RecordSearch.Console.Print
import RecordSearch.Console.Table
import RecordSearch.Query.Describe
import RecordSearch.Search.Highlight
import RecordSearch.Search.Service
import RecordSearch.Search.Sql

/-! What commands print. -/
namespace RecordSearch.Command.Show

def marked (style word : String) (text : Text) : Text :=
  Markup.styled style word.toList ++ ' ' :: text

def hints (verdict : Verdict) : Text :=
  verdict.hints.flatMap fun hint =>
    Console.print ("  Did you mean: ".toList ++ Markup.styled "cyan" (hint ++ [':']) ++ ['?'])

def queryFault (style word : String) (verdict : Verdict) : Text :=
  Console.print (marked style word (Markup.escape (verdict.error?.getD []))) ++ hints verdict

def verdict (verdict : Verdict) : Text :=
  if verdict.isValid then Console.print (marked "green" "✓" "Query is valid".toList)
  else queryFault "red" "✗" verdict

def error (word : String) (message : Text) : Text :=
  Console.print (marked "red" word (Markup.escape message))

/-- A date without the time of day. Only month and day are filled up with zeros. -/
def day (stamp : Stamp) : Text :=
  match stamp with
  | .read stamp =>
    let date := stamp.date
    Text.ofNat date.year ++ '-' :: Timestamp.digits 2 date.month ++ '-' ::
      Timestamp.digits 2 date.day
  | .written text => text

def resultColumns : List Console.Column := [
  { title := "Title".toList, limit := some 50 }, { title := "Type".toList },
  { title := "Tags".toList, limit := some 30 }, { title := "Updated".toList, alignment := .right }]

def resultRow (record : Record) : List Text :=
  [record.title, record.kind.name, Text.join ", ".toList record.tags, day record.updated]

def count (total : Nat) : Text :=
  Console.print ("\nFound ".toList ++ Markup.styled "green" (Text.ofNat total) ++
    (if total = 1 then " result".toList else " results".toList) ++ " (0ms)".toList)

def results (text : Text) (found : List Record) (limit : Int) : Text :=
  if found.isEmpty then
    Console.print ('\n' :: Markup.styled "yellow"
      ("No results found for '".toList ++ Markup.escape text ++ ['\x27']))
  else
    count found.length ++
      Console.endLines
        (Console.tableLines resultColumns ((takeLimit (some limit) found).map resultRow)) ++
      if limit < (found.length : Int) then
        Console.print (Markup.styled "dim"
          ("Showing ".toList ++ Text.ofInt limit ++ " of ".toList ++ Text.ofNat found.length))
      else []

def suggestions (completions : List Text) (hints : List Hint) : Text :=
  if completions.isEmpty && hints.isEmpty then
    Console.print (Markup.styled "yellow" "No suggestions".toList)
  else
    completions.flatMap (fun completion => Console.print (Markup.escape completion)) ++
      if hints.isEmpty then []
      else
        Console.print ('\n' :: Markup.styled "bold" "Syntax:".toList) ++
          hints.flatMap fun hint =>
            Console.print ("  ".toList ++ Markup.styled "cyan" (Markup.escape hint.text) ++ ' ' ::
              Markup.styled "dim" hint.kind.name ++ " - ".toList ++ hint.description)

def explanation (query : Query) (sql : Text) : Text :=
  Console.endLines (Console.panelLines Console.screenWidth "Parsed query".toList
      (Console.shown query.describe)) ++
    Console.print (marked "bold" "SQL:" (Markup.escape sql))

end RecordSearch.Command.Show
