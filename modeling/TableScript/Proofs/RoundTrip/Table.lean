import TableScript.Proofs.Read.Extension
import TableScript.Proofs.Write.Table

namespace TableScript

open Text

def Column.settingsRead (column : Column) (layout : Layout) (references : List Reference) :
    List Setting :=
  Setting.readAll (join ", " (Write.columnSettings layout column references)).toList

def Column.reread (column : Column) (layout : Layout) (references : List Reference)
    (number : Nat) : Column :=
  (column.settingsRead layout references).foldl Column.afterSetting {
    id := "col_" ++ toString number
    name := column.name
    type := column.type
    quotedName := !column.isBare }

def rereadColumns (layout : Layout) (referencesOf : Column → List Reference) (columns : List Column)
    (number : Nat) : List Column :=
  (columns.zipIdx number).map fun (column, place) => column.reread layout (referencesOf column) place

theorem Column.settingList_lineRead (column : Column) (layout : Layout)
    (references : List Reference) :
    (column.lineRead layout references).settingList = column.settingsRead layout references := by
  rw [ColumnLine.settingList, lineRead, getD_settingsContent]
  rfl

theorem Column.column_lineRead (column : Column) (layout : Layout) (references : List Reference)
    (number : Nat) :
    (column.lineRead layout references).column number = column.reread layout references number := by
  rw [ColumnLine.column, settingList_lineRead, ColumnLine.bareColumn, lineRead, nameRead]
  simp [reread]

/-- What the settings of a column give when they are read back. -/
def Table.columnDrafts (table : Table) (layout : Layout) (referencesOf : Column → List Reference)
    (column : Column) : List InlineDraft :=
  table.inlineDrafts column.name (column.settingsRead layout (referencesOf column))

/-- All references that the settings of the column name are read back. -/
def Column.RereadsFaultless (column : Column) (layout : Layout) (references : List Reference) :
    Prop :=
  ∀ setting ∈ column.settingsRead layout references, setting.IsFaultless

namespace ReadState

variable {policy : Policy} {state : ReadState} {layout : Layout}
  {referencesOf : Column → List Reference}

theorem takeBodyItem_written (policy : Policy) (state : ReadState) (table : Table) {column : Column}
    (writable : column.Writable) {line : SourceLine}
    (text : line.text = column.text layout (referencesOf column)) :
    ∃ after, takeBodyItem policy (state, table) (.column line) =
        (after, { table with
          columns := table.columns ++
            rereadColumns layout referencesOf [column] state.columnsNumbered }) ∧
      state.Extends after 1 (table.columnDrafts layout referencesOf column)
        (column.RereadsFaultless layout (referencesOf column)) := by
  have read : ColumnLine.read? line.text.toList =
      some (column.lineRead layout (referencesOf column)) := by
    rw [text]
    exact Column.read?_text writable
  have extends_column := extends_withColumn state policy table line
    (column.lineRead layout (referencesOf column))
  rw [Column.settingList_lineRead] at extends_column
  refine ⟨state.withColumn policy table line (column.lineRead layout (referencesOf column)), ?_, ?_⟩
  · simp only [takeBodyItem, readColumn_accepted read Column.isAccepted_lineRead,
      Column.column_lineRead]
    rfl
  · have name : String.ofList (column.lineRead layout (referencesOf column)).name.text =
        column.name := by
      rw [Column.lineRead, Column.nameRead, String.ofList_toList]
    rw [name] at extends_column
    exact extends_column

theorem rereadColumns_cons (column : Column) (columns : List Column) (number : Nat) :
    rereadColumns layout referencesOf (column :: columns) number =
      rereadColumns layout referencesOf [column] number ++
        rereadColumns layout referencesOf columns (number + 1) := by
  simp [rereadColumns]

theorem foldl_takeBodyItem_written (policy : Policy) (state : ReadState) (table : Table)
    {columns : List Column}
    (writable : ∀ column ∈ columns, column.Writable) {lines : List SourceLine}
    (texts : lines.map SourceLine.text =
      columns.map fun column => column.text layout (referencesOf column)) :
    ∃ after, (lines.map BodyItem.column).foldl (takeBodyItem policy) (state, table) =
        (after, { table with
          columns := table.columns ++
            rereadColumns layout referencesOf columns state.columnsNumbered }) ∧
      state.Extends after columns.length
        (columns.flatMap (table.columnDrafts layout referencesOf))
        (∀ column ∈ columns, column.RereadsFaultless layout (referencesOf column)) := by
  induction columns generalizing state table lines with
  | nil =>
      obtain rfl := List.map_eq_nil_iff.mp texts
      exact ⟨state, by simp [rereadColumns], (Extends.refl state).congr (by simp)⟩
  | cons column columns ih =>
      obtain ⟨line, rest, rfl, text, texts⟩ := List.map_eq_cons_iff.mp texts
      obtain ⟨middle, taken, begun⟩ := takeBodyItem_written policy state table
        (writable column List.mem_cons_self) text
      obtain ⟨after, rested, ended⟩ := ih middle
        { table with
          columns := table.columns ++
            rereadColumns layout referencesOf [column] state.columnsNumbered }
        (fun other member => writable other (List.mem_cons_of_mem column member)) texts
      refine ⟨after, ?_, ?_⟩
      · rw [List.map_cons, List.foldl_cons, taken, rested, rereadColumns_cons column columns,
          begun.columnsNumbered, List.append_assoc]
      · have whole := begun.trans ended
        rw [Nat.add_comm] at whole
        exact whole.congr (by simp)

end ReadState

namespace Body

variable {line : SourceLine} {layout : Layout} {referencesOf : Column → List Reference}

theorem ofLines_columns {columns : List Column} (writable : ∀ column ∈ columns, column.Writable)
    {lines : List SourceLine}
    (texts : lines.map SourceLine.text =
      columns.map fun column => column.text layout (referencesOf column))
    (rest : List SourceLine) :
    ofLines (lines ++ rest) =
      { ofLines rest with items := lines.map .column ++ (ofLines rest).items } := by
  induction columns generalizing lines with
  | nil =>
      obtain rfl := List.map_eq_nil_iff.mp texts
      rfl
  | cons column columns ih =>
      obtain ⟨line, more, rfl, text, texts⟩ := List.map_eq_cons_iff.mp texts
      have first := writable column List.mem_cons_self
      have classified : LineKind.classify true line.text.toList = .columnLike := by
        rw [text]
        exact Column.classify_text first
      have noBlock : LineKind.opensBlock line.text.toList = false := by
        rw [text]
        exact Column.opensBlock_text first
      have later := ih (fun other member => writable other (List.mem_cons_of_mem column member)) texts
      have notClosing : line.isClosing = false :=
        SourceLine.isClosing_eq_false (by rw [classified]; decide)
      rw [List.cons_append, ofLines_column notClosing noBlock classified, later]
      rfl

theorem ofLines_note {note : String} (text : line.text = "Note: " ++ Write.quoted note)
    (rest : List SourceLine) :
    ofLines (line :: rest) = { ofLines rest with items := .note line :: (ofLines rest).items } := by
  have classified : LineKind.classify true line.text.toList = .note := by
    rw [text]
    exact classify_note note
  have noBlock : LineKind.opensBlock line.text.toList = false := by
    rw [text]
    exact opensBlock_note note
  rw [ofLines, SourceLine.isClosing_eq_false (by rw [classified]; decide), noBlock]
  simp only [Bool.false_eq_true, if_false, classified]
  rfl

theorem ofLines_closing (text : line.text = "\x7d") (rest : List SourceLine) :
    ofLines (line :: rest) = ⟨[], true, rest⟩ := by
  have closing : line.isClosing = true := by rw [SourceLine.isClosing, text]; rfl
  rw [ofLines, if_pos closing]

end Body

/-- A table as it is read back under a number, its columns numbered from another. -/
def Table.reread (table : Table) (layout : Layout) (referencesOf : Column → List Reference)
    (number columnNumber : Nat) : Table :=
  let headed := (table.headerRead layout).table number
  { headed with
    columns := rereadColumns layout referencesOf table.columns columnNumber
    note := noteWritten layout table.note <|> headed.note }

namespace ReadState

variable {policy : Policy} {state : ReadState} {layout : Layout}
  {referencesOf : Column → List Reference} {table : Table}

theorem readNote_written {note : String} {line : SourceLine}
    (text : line.text = "Note: " ++ Write.quoted note) :
    readNote state line = (state, some note) := by
  have read : noteText? line.text.toList = some (quote note.toList) := by
    rw [text]
    exact noteText?_quoted note
  have stripped := stripQuotes_quote note.toList
  rw [quote, List.cons_append] at read stripped
  simp only [readNote, read, stripped, String.ofList_toList]

/-- The lines behind the header, up to the closing brace. -/
theorem readBody_written (policy : Policy) (state : ReadState) (line : SourceLine)
    {header : TableHeader} (writable : table.Writable) (opens : header.opensBody = true)
    {lines : List SourceLine}
    (texts : lines.map SourceLine.text =
      (table.columns.map fun column => column.text layout (referencesOf column)) ++
        (table.noteText? layout).toList ++ ["\x7d"])
    (rest : List SourceLine) (progress : Table) (fresh : progress.columns = [])
    (key : progress.key = table.key) :
    ∃ after, readBody policy line header (lines ++ rest) (state, progress) =
        ((after, { progress with
          columns := rereadColumns layout referencesOf table.columns state.columnsNumbered
          note := noteWritten layout table.note <|> progress.note }), rest) ∧
      state.Extends after table.columns.length
        (table.columns.flatMap (table.columnDrafts layout referencesOf))
        (∀ column ∈ table.columns, column.RereadsFaultless layout (referencesOf column)) := by
  obtain ⟨front, closingLines, rfl, frontTexts, closingTexts⟩ := List.map_eq_append_iff.mp texts
  obtain ⟨columnLines, noteLines, rfl, columnTexts, noteTexts⟩ :=
    List.map_eq_append_iff.mp frontTexts
  obtain ⟨closing, nothing, rfl, closingText, nothingTexts⟩ := List.map_eq_cons_iff.mp closingTexts
  obtain rfl := List.map_eq_nil_iff.mp nothingTexts
  obtain ⟨after, columns, extended⟩ := foldl_takeBodyItem_written policy state progress
    writable.columns columnTexts
  have drafts : progress.columnDrafts layout referencesOf =
      table.columnDrafts layout referencesOf := by
    obtain ⟨schema, name⟩ := TableKey.mk.inj key
    unfold Table.columnDrafts Table.inlineDrafts
    rw [schema, name]
  rw [drafts] at extended
  refine ⟨after, ?_, extended⟩
  have closed := Body.ofLines_closing closingText rest
  have begun : header.bodyLines? (columnLines ++ noteLines ++ [closing] ++ rest) =
      some (columnLines ++ (noteLines ++ closing :: rest)) := by
    simp [TableHeader.bodyLines?, opens]
  have body := Body.ofLines_columns writable.columns columnTexts (noteLines ++ closing :: rest)
  rw [Table.noteText?] at noteTexts
  rw [fresh, List.nil_append] at columns
  simp only [readBody, begun]
  cases note : noteWritten layout table.note with
  | none =>
      rw [note] at noteTexts
      obtain rfl := List.map_eq_nil_iff.mp noteTexts
      rw [List.nil_append, closed] at body
      simp only [List.nil_append, body, List.append_nil, columns, if_true]
      rfl
  | some text =>
      rw [note] at noteTexts
      obtain ⟨noteLine, nothing, rfl, noteText, nothingTexts⟩ := List.map_eq_cons_iff.mp noteTexts
      obtain rfl := List.map_eq_nil_iff.mp nothingTexts
      rw [List.cons_append, List.nil_append, Body.ofLines_note noteText, closed] at body
      simp only [List.cons_append, List.nil_append, body, List.foldl_append, columns,
        List.foldl_cons, List.foldl_nil, takeBodyItem, readNote_written noteText, if_true]
      rfl

end ReadState

end TableScript
