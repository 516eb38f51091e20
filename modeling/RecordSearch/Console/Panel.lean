import RecordSearch.Console.Wrap

/-! Text in a frame with rounded corners and a title. -/
namespace RecordSearch.Console

/-- The line above a panel, with the title in its middle; of an odd rest the longer part stands
behind it. -/
def panelTop (width : Nat) (title : Text) : Text :=
  let shown := ' ' :: title ++ [' ']
  let rest := width - 2 - columns shown
  '╭' :: List.replicate (rest / 2) '─' ++ shown ++ List.replicate (rest - rest / 2) '─' ++ ['╮']

def panelLines (width : Nat) (title text : Text) : List Text :=
  let inner := width - 4
  [panelTop width title] ++
    (wrap inner .fold text).map (fun line => "│ ".toList ++ padTo inner line ++ " │".toList) ++
    ['╰' :: List.replicate (width - 2) '─' ++ ['╯']]

end RecordSearch.Console
