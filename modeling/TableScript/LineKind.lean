import TableScript.Grammar.Keyword
import TableScript.Grammar.ColumnLine

/-! What a line is, as far as its beginning tells. Inside the body of a table a column may be named
like a keyword, so there only braces, notes and index blocks come before columns. -/

namespace TableScript

inductive LineKind where
  | table
  | ref
  | columnLike
  | note
  | enum
  | project
  | tableGroup
  | indexes
  | brace
  | unknown
deriving Repr, DecidableEq

namespace LineKind

def all : List LineKind :=
  [table, ref, columnLike, note, enum, project, tableGroup, indexes, brace, unknown]

def label : LineKind → String
  | .table => "table"
  | .ref => "ref"
  | .columnLike => "column_like"
  | .note => "note"
  | .enum => "enum"
  | .project => "project"
  | .tableGroup => "table_group"
  | .indexes => "indexes"
  | .brace => "brace"
  | .unknown => "unknown"

def ofLabel? (label : String) : Option LineKind :=
  all.find? (·.label == label)

def isModeled : LineKind → Bool
  | .table | .ref | .columnLike | .note => true
  | _ => false

def isUnmodeledBlock : LineKind → Bool
  | .enum | .project | .tableGroup | .indexes => true
  | _ => false

def featureTag : LineKind → String
  | .enum => "enums"
  | .project => "projects"
  | .tableGroup => "table_groups"
  | .indexes => "indexes"
  | kind => kind.label

/-- The keywords of the top level, in the order in which they are tried. -/
def ofKeyword? (text : List Char) : Option LineKind :=
  if Keyword.table.namesSomething text then some .table
  else if startsReference text then some .ref
  else if Keyword.enum.namesSomething text then some .enum
  else if Keyword.project.namesSomething text then some .project
  else if Keyword.tableGroup.namesSomething text then some .tableGroup
  else none
where
  startsReference (text : List Char) : Bool :=
    match Keyword.ref.after? text with
    | some (c :: _) => Text.isBlank c || c == ':'
    | _ => false

def isBrace (text : List Char) : Bool :=
  match text with
  | c :: rest => (c == '{' || c == '}') && Lexeme.atEnd rest
  | [] => false

/-- Notes and columns. They are told apart in the same way at the top level and in bodies. -/
def ofBody (text : List Char) : LineKind :=
  if Keyword.note.precedes ':' text then .note
  else if ColumnLine.resembles text then .columnLike
  else .unknown

def classify (inBody : Bool) (text : List Char) : LineKind :=
  if isBrace text then .brace
  else if Keyword.indexes.precedes '{' text then .indexes
  else if inBody then ofBody text
  else (ofKeyword? text).getD (ofBody text)

/-- The line is the header of a block of the top level and ends in a brace. Inside the body of a
table such a line means that the body was never closed. -/
def opensBlock (text : List Char) : Bool :=
  text.getLast? == some '{' &&
    match classify false text with
    | .table | .enum | .project | .tableGroup => true
    | _ => false

end LineKind

end TableScript
