import RecordSearch.Console.Wrap

/-! Tables in a frame of lines. A column is as wide as its widest cell, unless that is wider than
the column may be; then its cells take several lines. -/
namespace RecordSearch.Console

inductive Alignment where
  | left
  | right
  deriving DecidableEq, Repr

structure Column where
  title : Text
  limit : Option Nat := none
  alignment : Alignment := .left
  deriving DecidableEq, Repr

namespace Column

/-- Whether a character ends a line when the width of a cell is measured. -/
def endsLine (c : Char) : Bool :=
  let n := c.toNat; n == 10 || (28 ≤ n && n ≤ 30) || n == 0x85 || n == 0x2028 || n == 0x2029

def measure (cell : Text) : Nat := ((Text.splitAt endsLine cell).map columns).foldl max 0

def width (column : Column) (cells : List Text) : Nat :=
  let widest := ((column.title :: cells).map measure).foldl max 0
  (column.limit.map (min widest)).getD widest

def align (column : Column) (width : Nat) (line : Text) : Text :=
  match column.alignment with
  | .left => padTo width (truncate width .ellipsis line)
  | .right =>
    let cut := truncate width .ellipsis (Text.dropWhileEnd isBlank line)
    List.replicate (width - columns cut) ' ' ++ cut

def cellLines (column : Column) (width : Nat) (cell : Text) : List Text :=
  (wrap width .ellipsis cell).map (align column width)

end Column

/-- The characters of a line that frames a table: at its beginning, along it, between columns, and
at its end. -/
structure Rule where
  start : Char
  along : Char
  between : Char
  stop : Char
  deriving DecidableEq, Repr

/-- The rule over columns of some widths. Each column has a space on both sides. -/
def Rule.draw (rule : Rule) (widths : List Nat) : Text :=
  rule.start ::
    Text.join [rule.between] (widths.map fun width => List.replicate (width + 2) rule.along) ++
    [rule.stop]

def topRule : Rule := ⟨'┏', '━', '┳', '┓'⟩

def titleRule : Rule := ⟨'┡', '━', '╇', '┩'⟩

def bottomRule : Rule := ⟨'└', '─', '┴', '┘'⟩

def rowLine (bar : Char) (cells : List Text) : Text :=
  bar :: Text.join [bar] (cells.map fun cell => ' ' :: cell ++ [' ']) ++ [bar]

/-- The lines of a row between bars. Shorter cells are filled up with empty lines. -/
def rowLines (bar : Char) (columns : List (Column × Nat)) (cells : List Text) : List Text :=
  let parts :=
    (columns.zip cells).map fun ((column, width), cell) => (width, column.cellLines width cell)
  let height := (parts.map fun part => part.2.length).foldl max 0
  (List.range height).map fun place =>
    rowLine bar (parts.map fun (width, lines) => lines.getD place (List.replicate width ' '))

def sized (columns : List Column) (rows : List (List Text)) : List (Column × Nat) :=
  columns.mapIdx fun place column => (column, column.width (rows.map fun row => row.getD place []))

def tableLines (columns : List Column) (rows : List (List Text)) : List Text :=
  let rows := rows.map fun row => row.map plain
  let columns := sized columns rows
  let widths := columns.map Prod.snd
  [topRule.draw widths] ++ rowLines '┃' columns (columns.map fun column => column.1.title) ++
    [titleRule.draw widths] ++ rows.flatMap (rowLines '│' columns) ++ [bottomRule.draw widths]

end RecordSearch.Console
