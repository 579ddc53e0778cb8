import TableScript.Text.Character
import TableScript.Text.Control
import TableScript.Text.LetterCase
import TableScript.Text.Shown
import TableScript.Text.Utf8

/-! Plain tables for a terminal: a line of headings, a line of dashes, then the rows. A column is as
wide as its widest cell and at least two characters wider than its heading. Columns of numbers are
set to the right, all others to the left; two spaces stand between columns and no line ends in
blanks. What a terminal does not show takes no room. A cell with line breaks takes several lines. -/

namespace TableScript.Text.Grid

inductive Cell where
  | number (value : Int)
  | text (value : String)

/-- What a cell reads as. A text may be the name of a truth value or of a number that has no digits. -/
inductive Kind where
  | truth
  | number
  | text
deriving Repr, DecidableEq

namespace Cell

def written : Cell → String
  | .number value => toString value
  | .text value => value

def kind : Cell → Kind
  | .number _ => .number
  | .text value =>
      if value = "True" || value = "False" then .truth
      else if ["nan", "inf", "-inf"].contains (String.ofList (lower value.toList)) then .number
      else .text

end Cell

/-- What all cells of a column read as. A text makes a column of texts, a number one of numbers. -/
def columnKind (cells : List Cell) : Kind :=
  if cells.any (·.kind = .text) then .text
  else if cells.any (·.kind = .number) then .number
  else .truth

/-- A truth value stands in a column of numbers. -/
structure NotANumber where
  text : String
deriving Repr, DecidableEq

def NotANumber.message (refusal : NotANumber) : String :=
  "could not convert string to float: " ++ shown refusal.text

/-- The text of a cell in a column of that kind. Numbers without digits have small letters. -/
def Cell.shown (column : Kind) (cell : Cell) : Except NotANumber (List Char) :=
  match column, cell.kind with
  | .number, .truth => .error ⟨cell.written⟩
  | .number, _ => .ok (lower cell.written.toList)
  | _, _ => .ok (trim cell.written.toList)

def isFeedOrReturn (c : Char) : Bool := c == '\n' || c == '\r'

/-- Everything that ends a line in a cell of several lines. -/
def isLineBreak (c : Char) : Bool :=
  (0xA ≤ c.toNat && c.toNat ≤ 0xD) || (0x1C ≤ c.toNat && c.toNat ≤ 0x1E) ||
    c.toNat == 0x85 || c.toNat == 0x2028 || c.toNat == 0x2029

def greatest (numbers : List Nat) : Nat :=
  numbers.foldl Nat.max 0

/-- The pieces of a cell between line feeds and carriage returns. By them it is measured. -/
def measured (cell : List Char) : List (List Char) :=
  cell.splitOnP isFeedOrReturn

def unseenLength (text : List Char) : Nat :=
  text.length - (Control.visible text).length

def width (pieces : List (List Char)) : Nat :=
  greatest (pieces.map fun piece => (Control.visible piece).length)

def pad (toRight : Bool) (length : Nat) (line : List Char) : List Char :=
  let filling := List.replicate (length - line.length) ' '
  if toRight then filling ++ line else line ++ filling

/-- What holds for a whole table: a cell has several lines, and there is something that a terminal
does not show. -/
structure Manner where
  severalLines : Bool
  unseen : Bool

/-- The lines of a cell, filled up. Where a terminal does not show everything, a line is measured by
the piece that has its number, and lines without a piece are lost. -/
def cellLines (manner : Manner) (toRight : Bool) (columnWidth : Nat) (cell : List Char) :
    List (List Char) :=
  let lines :=
    if !manner.severalLines then [cell]
    else if cell.isEmpty then []
    else (Utf8.unifyBreaks cell).splitOnP isLineBreak
  if manner.unseen then
    (lines.zip (measured cell)).map fun (line, piece) =>
      pad toRight (columnWidth + unseenLength piece) line
  else lines.map (pad toRight columnWidth)

structure Column where
  heading : List Char
  width : Nat
  cells : List (List (List Char))

def Column.ofCells (manner : Manner) (heading : String) (cells : List Cell) :
    Except NotANumber Column := do
  let kind := columnKind cells
  let toRight := kind = .number
  let texts ← cells.mapM (·.shown kind)
  let least := heading.length + 2
  let room := Nat.max least (greatest (texts.map fun text => Grid.width (measured text)))
  let laid := texts.map (cellLines manner toRight room)
  let columnWidth := Nat.max least (greatest (laid.map Grid.width))
  pure ⟨pad toRight columnWidth heading.toList, columnWidth, laid⟩

/-- The lines of a row, the cells of each joined with two spaces. Cells with fewer lines than others
are filled up below. -/
def rowLines (widths : List Nat) (cells : List (List (List Char))) : List (List Char) :=
  let height := greatest (cells.map List.length)
  (List.range height).map fun index =>
    let parts := (cells.zip widths).map fun (lines, columnWidth) =>
      (lines[index]?).getD (List.replicate columnWidth ' ')
    trimEnd ([' ', ' '].intercalate parts)

def render (headings : List String) (rows : List (List Cell)) : Except NotANumber String := do
  let whole := ['\t'].intercalate
    ((headings ++ rows.flatMap fun row => row.map Cell.written).map String.toList)
  let manner : Manner := {
    severalLines := whole.any isFeedOrReturn
    unseen := Control.holdsUnseen whole }
  let columns ← headings.zipIdx.mapM fun (heading, index) =>
    Column.ofCells manner heading (rows.filterMap (·[index]?))
  let widths := columns.map (·.width)
  let lines :=
    rowLines widths (columns.map fun column => [column.heading]) ++
    rowLines widths (widths.map fun columnWidth => [List.replicate columnWidth '-']) ++
    (List.range rows.length).flatMap fun index =>
      rowLines widths (columns.filterMap (·.cells[index]?))
  pure (join "\n" (lines.map String.ofList))

end TableScript.Text.Grid
