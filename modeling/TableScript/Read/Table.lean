import TableScript.Grammar.ColumnLine
import TableScript.Grammar.Keyword
import TableScript.Grammar.TableHeader
import TableScript.Read.Block
import TableScript.Read.Settings

/-! Reading tables. A header that cannot be accepted is reported and its block is skipped in silence.
An accepted header begins a table that takes the columns and the note of its body and is declared
when the body ends. -/

namespace TableScript

namespace ReadState

def skipBlock (state : ReadState) (header : SourceLine) (following : List SourceLine) :
    ReadState × List SourceLine :=
  let skipped := Skipped.ofHeader header following
  (if skipped.closed then state else state.report (.unclosedBlock header.text) header,
    skipped.rest)

def noticeBlock (state : ReadState) (block : SkippedBlock) (tag : String) (header : SourceLine) :
    ReadState :=
  (state.addFeature tag).report (.skippedBlock block header.text) header

def readColumn (policy : Policy) (table : Table) (state : ReadState) (line : SourceLine) :
    ReadState × Option Column :=
  match ColumnLine.read? line.text.toList with
  | none => (state.report (.badColumn line.text) line, none)
  | some declared =>
      let ignored := Text.trim declared.rest
      let name := String.ofList declared.name.text
      if ignored.head? = some '[' then (state.report (.badColumn line.text) line, none)
      else if !declared.name.quoted && !Lexeme.isIdentifier declared.name.text then
        (state.report (.badColumnName name) line, none)
      else
        let (id, state) := state.numberColumn
        let column : Column := {
          id
          name
          type := String.ofList declared.type
          quotedName := declared.name.quoted }
        let settings := Setting.readAll (declared.settings.getD [])
        let (state, column) :=
          settings.foldl (takeColumnSetting policy line table) (state, column)
        (if ignored.isEmpty then state
          else state.reportAt (.ignoredText (String.ofList ignored)) line declared.restOffset,
          some column)

/-- The note that a line gives. A line without a text is reported. -/
def readNote (state : ReadState) (line : SourceLine) : ReadState × Option String :=
  match noteText? line.text.toList with
  | some (c :: text) => (state, some (String.ofList (Text.stripQuotes (c :: text))))
  | _ => (state.report (.badNote line.text) line, none)

def takeBodyItem (policy : Policy) (progress : ReadState × Table) (item : BodyItem) :
    ReadState × Table :=
  let (state, table) := progress
  match item with
  | .column line =>
      match readColumn policy table state line with
      | (state, some column) => (state, { table with columns := table.columns ++ [column] })
      | (state, none) => (state, table)
  | .note line =>
      match readNote state line with
      | (state, some note) => (state, { table with note := some note })
      | (state, none) => (state, table)
  | .indexes line closed =>
      let state := state.noticeBlock .indexes LineKind.indexes.featureTag line
      (if closed then state else state.report (.unclosedBlock line.text) line, table)
  | .other line => (state.report (.unknownTableContent line.text) line, table)

end ReadState

/-- The lines of the body that a header begins, if it begins one: the brace stands at the end of the
header or alone on the next line. -/
def TableHeader.bodyLines? (header : TableHeader) (following : List SourceLine) :
    Option (List SourceLine) :=
  if header.opensBody then some following
  else
    match following with
    | line :: rest => if line.isOpening then some rest else none
    | [] => none

/-- What forbids the name in a header, each with its place in the line. -/
def TableHeader.nameProblems (header : TableHeader) (catalog : Catalog) : List (Problem × Nat) :=
  let (schema, name) := header.nameParts
  let schemaProblems :=
    match schema with
    | some text =>
        if Lexeme.isIdentifier text then []
        else [(.badSchemaName (String.ofList text), header.nameOffset)]
    | none => []
  let nameOffset :=
    match schema with
    | some text => header.nameOffset + text.length + 1
    | none => header.nameOffset
  let nameProblems :=
    if Lexeme.isIdentifier name then [] else [(.badTableName (String.ofList name), nameOffset)]
  match schemaProblems ++ nameProblems with
  | [] =>
      if catalog.contains ⟨schema.map String.ofList, String.ofList name⟩ then
        [(.duplicateTable (String.ofList header.name), header.nameOffset)]
      else []
  | problems => problems

namespace ReadState

def readAcceptedTable (policy : Policy) (state : ReadState) (line : SourceLine)
    (header : TableHeader) (following : List SourceLine) :
    Except AlreadyDeclared (ReadState × List SourceLine) :=
  let (schema, name) := header.nameParts
  let (id, state) := state.numberTable
  let table : Table := { id, name := String.ofList name, schema := schema.map String.ofList }
  let settings := Setting.readAll (header.settings.getD [])
  let (state, table) := settings.foldl (takeTableSetting policy line) (state, table)
  let (state, table, rest) :=
    match header.bodyLines? following with
    | none => (state, table, following)
    | some lines =>
        let body := Body.ofLines lines
        let (state, table) := body.items.foldl (takeBodyItem policy) (state, table)
        (if body.closed then state else state.report (.unclosedTable table.qualifiedName) line,
          table, body.rest)
  match state.catalog.declare table with
  | .ok catalog => .ok ({ state with catalog }, rest)
  | .error refusal => .error refusal

def readTable (policy : Policy) (state : ReadState) (line : SourceLine)
    (following : List SourceLine) : Except AlreadyDeclared (ReadState × List SourceLine) :=
  match TableHeader.read? line.text.toList with
  | none => .ok ((state.report (.badTableHeader line.text) line).skipBlock line following)
  | some header =>
      match header.nameProblems state.catalog with
      | [] => readAcceptedTable policy state line header following
      | problems =>
          let reported := problems.foldl
            (fun (state : ReadState) (problem, offset) => state.reportAt problem line offset) state
          .ok (reported.skipBlock line following)

end ReadState

theorem TableHeader.bodyLines?_suffix {header : TableHeader} {following lines : List SourceLine}
    (begun : header.bodyLines? following = some lines) : lines <:+ following := by
  unfold TableHeader.bodyLines? at begun
  split at begun
  · cases begun
    exact List.suffix_refl _
  · split at begun
    · split at begun
      · cases begun
        exact List.suffix_cons _ _
      · cases begun
    · cases begun

namespace ReadState

theorem readAcceptedTable_suffix {policy : Policy} {state after : ReadState} {line : SourceLine}
    {header : TableHeader} {following rest : List SourceLine}
    (done : readAcceptedTable policy state line header following = .ok (after, rest)) :
    rest <:+ following := by
  unfold readAcceptedTable at done
  cases begun : header.bodyLines? following with
  | none =>
      simp only [begun] at done
      split at done
      · cases done
        exact List.suffix_refl _
      · cases done
  | some lines =>
      simp only [begun] at done
      split at done
      · cases done
        exact (Body.ofLines_suffix lines).trans (TableHeader.bodyLines?_suffix begun)
      · cases done

theorem readTable_suffix {policy : Policy} {state after : ReadState} {line : SourceLine}
    {following rest : List SourceLine}
    (done : readTable policy state line following = .ok (after, rest)) : rest <:+ following := by
  unfold readTable at done
  split at done
  · cases done
    exact Skipped.ofHeader_suffix line following
  · split at done
    · exact readAcceptedTable_suffix done
    · cases done
      exact Skipped.ofHeader_suffix line following

end ReadState

end TableScript
