import TableScript.Text.Character
import TableScript.Text.Cut

namespace TableScript

inductive Keyword where
  | table
  | ref
  | enum
  | project
  | tableGroup
  | indexes
  | note
deriving Repr, DecidableEq

namespace Keyword

def capital : Keyword → String
  | .table => "Table"
  | .ref => "Ref"
  | .enum => "Enum"
  | .project => "Project"
  | .tableGroup => "TableGroup"
  | .indexes => "Indexes"
  | .note => "Note"

def small : Keyword → String
  | .table => "table"
  | .ref => "ref"
  | .enum => "enum"
  | .project => "project"
  | .tableGroup => "tablegroup"
  | .indexes => "indexes"
  | .note => "note"

/-- What follows the keyword at the start of the text. -/
def after? (keyword : Keyword) (text : List Char) : Option (List Char) :=
  Text.after? keyword.capital.toList text <|> Text.after? keyword.small.toList text

/-- The keyword, blanks and the beginning of a word. -/
def namesSomething (keyword : Keyword) (text : List Char) : Bool :=
  match keyword.after? text with
  | some (c :: rest) =>
      Text.isBlank c &&
        match Text.trimStart rest with
        | w :: _ => Text.isWord w
        | [] => false
  | _ => false

/-- The keyword, perhaps blanks, and then that mark. -/
def precedes (keyword : Keyword) (mark : Char) (text : List Char) : Bool :=
  match keyword.after? text with
  | some rest =>
      match Text.trimStart rest with
      | c :: _ => c == mark
      | [] => false
  | none => false

end Keyword

/-- The content of the brackets at the start of the text and what follows them. -/
def bracketed? (text : List Char) : Option (List Char × List Char) :=
  match text with
  | '[' :: rest => Text.cutAtLast ']' rest
  | _ => none

/-- The note of a table: what stands behind the keyword and a colon. -/
def noteText? (text : List Char) : Option (List Char) := do
  let behindKeyword ← Keyword.note.after? text
  let behindColon ← Text.after? [':'] (Text.trimStart behindKeyword)
  pure (Text.trim behindColon)

end TableScript
