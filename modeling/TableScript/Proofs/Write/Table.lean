import TableScript.Proofs.Grammar.TableHeader
import TableScript.Proofs.Text.Quoting
import TableScript.Proofs.Write.Column

namespace TableScript

open Text

/-- A table that can be written. -/
structure Table.Writable (table : Table) : Prop where
  named : IsPlainName table.name
  qualified : ∀ schema ∈ table.schema, IsPlainName schema
  columns : ∀ column ∈ table.columns, column.Writable

theorem Table.WellFormed.writable {table : Table} (form : table.WellFormed) : table.Writable :=
  ⟨form.named, form.qualified, fun column member => (form.columns column member).writable⟩

theorem IsPlainName.ne_empty {name : String} (plain : IsPlainName name) : name ≠ "" := by
  intro empty
  obtain ⟨c, rest, characters, _⟩ := plain.exists_parts
  simp [empty] at characters

namespace Table

variable {table : Table} {layout : Layout}

theorem Writable.qualifiedName_toList (writable : table.Writable) :
    table.qualifiedName.toList =
      (table.schema.elim [] fun schema => schema.toList ++ ['.']) ++ table.name.toList := by
  cases schema : table.schema with
  | none => simp [qualifiedName, qualify, schema]
  | some name =>
      have given := (writable.qualified name schema).ne_empty
      simp [qualifiedName, qualify, schema, given]

theorem Writable.isIdentifierPart_or_dot_of_mem_qualifiedName (writable : table.Writable) {c : Char}
    (member : c ∈ table.qualifiedName.toList) : Lexeme.isIdentifierPart c = true ∨ c = '.' := by
  rw [writable.qualifiedName_toList] at member
  rcases List.mem_append.mp member with inSchema | inName
  · cases schema : table.schema with
    | none => simp [schema] at inSchema
    | some name =>
        simp only [schema, Option.elim_some, List.mem_append, List.mem_singleton] at inSchema
        rcases inSchema with character | dot
        · exact .inl ((writable.qualified name schema).isIdentifierPart c character)
        · exact .inr dot
  · exact .inl (writable.named.isIdentifierPart c inName)

theorem Writable.qualifiedName_head (writable : table.Writable) :
    ∃ c rest, table.qualifiedName.toList = c :: rest ∧ isWord c = true := by
  rw [writable.qualifiedName_toList]
  cases schema : table.schema with
  | none =>
      obtain ⟨c, rest, characters, start, _⟩ := writable.named.exists_parts
      exact ⟨c, rest, by simp [characters], Lexeme.isWord_of_isIdentifierStart start⟩
  | some name =>
      obtain ⟨c, rest, characters, start, _⟩ := (writable.qualified name schema).exists_parts
      exact ⟨c, rest ++ ['.'] ++ table.name.toList, by simp [characters],
        Lexeme.isWord_of_isIdentifierStart start⟩

def headerText (table : Table) (layout : Layout) : String :=
  "Table " ++ table.qualifiedName ++ Write.bracketed (Write.properties layout table.properties) ++
    " \x7b"

theorem toList_headerText (table : Table) (layout : Layout) : (table.headerText layout).toList =
    "Table".toList ++ ' ' :: (table.qualifiedName.toList ++
      TableHeader.endText (settingsContent (Write.properties layout table.properties))) := by
  simp [headerText, TableHeader.endText, Write.toList_bracketed]

def headerRead (table : Table) (layout : Layout) : TableHeader where
  name := table.qualifiedName.toList
  nameOffset := 6
  settings := settingsContent (Write.properties layout table.properties)
  opensBody := true

theorem read?_headerText (writable : table.Writable) :
    TableHeader.read? (table.headerText layout).toList = some (table.headerRead layout) := by
  rw [toList_headerText]
  refine TableHeader.read?_written _ ⟨?_, ?_⟩
  · obtain ⟨c, rest, characters, _⟩ := writable.qualifiedName_head
    simp [characters]
  · intro c member
    rcases writable.isIdentifierPart_or_dot_of_mem_qualifiedName member with part | rfl
    · have plain : isBlank c = false :=
        isBlank_eq_false_of_isWord (Lexeme.isWord_of_isIdentifierPart part)
      have noBracket : c ≠ '[' := by
        intro same
        subst same
        exact absurd part (by decide)
      have noBrace : c ≠ '\x7b' := by
        intro same
        subst same
        exact absurd part (by decide)
      simp [TableHeader.isNameCharacter, plain, noBracket, noBrace]
    · decide

theorem nameParts_headerRead (writable : table.Writable) :
    (table.headerRead layout).nameParts = (table.schema.map String.toList, table.name.toList) := by
  have noDot : '.' ∉ table.name.toList := by
    intro dot
    exact absurd (writable.named.isIdentifierPart '.' dot) (by decide)
  unfold TableHeader.nameParts headerRead
  dsimp only
  rw [writable.qualifiedName_toList]
  cases schema : table.schema with
  | none => simp [cutAtLast_eq_none noDot]
  | some name =>
      have given := (writable.qualified name schema).ne_empty
      have cut : cutAtLast '.' (name.toList ++ '.' :: table.name.toList) =
          some (name.toList, table.name.toList) := cutAtLast_append noDot
      simp [cut, given]

theorem isTrimmed_headerText : IsTrimmed (table.headerText layout).toList := by
  refine ⟨?_, ?_⟩
  · rw [toList_headerText]
    intro c member
    cases member
    decide
  · rw [headerText, String.toList_append]
    have brace : " \x7b".toList = [' '] ++ ['\x7b'] := rfl
    rw [brace, ← List.append_assoc, List.getLast?_concat]
    intro c member
    cases member
    decide

theorem classify_headerText (writable : table.Writable) :
    LineKind.classify false (table.headerText layout).toList = .table := by
  obtain ⟨c, rest, characters, word⟩ := writable.qualifiedName_head
  rw [toList_headerText, characters]
  exact LineKind.classify_table word _

end Table

/-- The note that is written: there is none where notes are left out. -/
def noteWritten (layout : Layout) (note : Option String) : Option String :=
  note.filter fun text => text ≠ "" && layout.comments

theorem Write.note?_eq (layout : Layout) (note : Option String) :
    Write.note? layout note = (noteWritten layout note).map Write.quoted := by
  cases note with
  | none => rfl
  | some text =>
      simp only [Write.note?, noteWritten, Option.filter_some]
      split <;> simp_all

def Table.noteText? (table : Table) (layout : Layout) : Option String :=
  (noteWritten layout table.note).map fun note => "Note: " ++ Write.quoted note

theorem noteText?_quoted (note : String) :
    TableScript.noteText? ("Note: " ++ Write.quoted note).toList = some (quote note.toList) := by
  have behind : ("Note: " ++ Write.quoted note).toList =
      "Note".toList ++ ':' :: ' ' :: quote note.toList := by
    simp [Write.quoted]
  have colon : after? [':'] (':' :: ' ' :: quote note.toList) = some (' ' :: quote note.toList) :=
    rfl
  have trimmed : trim (' ' :: quote note.toList) = quote note.toList :=
    trim_space (isTrimmed_quote note.toList)
  have keyword := Keyword.after?_capital .note (':' :: ' ' :: quote note.toList)
  simp only [Keyword.capital] at keyword
  rw [TableScript.noteText?, behind, keyword]
  simp only [Option.bind_eq_bind, Option.bind_some, trimStart_of_head (c := ':') (by decide), colon,
    trimmed]
  rfl

theorem toList_note (note : String) :
    ("Note: " ++ Write.quoted note).toList = "Note".toList ++ ':' :: ' ' :: quote note.toList := by
  simp [Write.quoted]

theorem isTrimmed_note (note : String) : IsTrimmed ("Note: " ++ Write.quoted note).toList := by
  rw [toList_note]
  refine ⟨?_, ?_⟩
  · intro c member
    cases member
    decide
  · rw [quote, ← List.cons_append, ← List.cons_append, ← List.append_assoc, List.getLast?_concat]
    intro c member
    cases member
    decide

theorem classify_note (note : String) :
    LineKind.classify true ("Note: " ++ Write.quoted note).toList = .note := by
  rw [toList_note]
  rfl

theorem opensBlock_note (note : String) :
    LineKind.opensBlock ("Note: " ++ Write.quoted note).toList = false := by
  unfold LineKind.opensBlock
  rw [Bool.and_eq_false_iff]
  refine .inl ?_
  rw [toList_note, quote, ← List.cons_append, ← List.cons_append, ← List.append_assoc,
    List.getLast?_concat]
  decide

theorem mapM_eq_ok {α β ε : Type} (step : α → Except ε β) (value : α → β) {list : List α}
    (each : ∀ x ∈ list, step x = .ok (value x)) : list.mapM step = .ok (list.map value) := by
  induction list with
  | nil => rfl
  | cons x rest ih =>
      rw [List.mapM_cons, each x List.mem_cons_self,
        ih fun y member => each y (List.mem_cons_of_mem x member)]
      rfl

namespace Table

variable {table : Table} {layout : Layout} {referencesOf : Column → List Reference}

theorem tableName_eq (writable : table.Writable) :
    Write.tableName table = .ok table.qualifiedName := by
  unfold Write.tableName
  rw [if_neg (by simp [writable.named.1])]
  cases schema : table.schema with
  | none => simp [qualifiedName, qualify, schema]
  | some name =>
      have plain := writable.qualified name schema
      simp [qualifiedName, qualify, schema, plain.1, plain.ne_empty]

def texts (table : Table) (layout : Layout) (referencesOf : Column → List Reference) :
    List String :=
  table.headerText layout :: (table.columns.map fun column =>
    column.text layout (referencesOf column)) ++ (table.noteText? layout).toList ++ ["\x7d"]

def lines (table : Table) (layout : Layout) (referencesOf : Column → List Reference) :
    List String :=
  table.headerText layout ::
    (table.columns.map fun column => layout.indent ++ column.text layout (referencesOf column)) ++
    ((table.noteText? layout).toList.map fun note => layout.indent ++ note) ++ ["\x7d"]

theorem tableLines_eq (writable : table.Writable) (indented : layout.checkIndent = .ok ()) :
    Write.tableLines layout referencesOf table = .ok (table.lines layout referencesOf) := by
  have columns : table.columns.mapM (fun column => do
      let line ← Write.columnLine layout column (referencesOf column)
      pure (layout.indent ++ line)) = _ :=
    mapM_eq_ok _ (fun column => layout.indent ++ column.text layout (referencesOf column))
      fun column member => by
        rw [Column.columnLine_eq (writable.columns column member)]
        rfl
  simp only [bind, Except.bind, pure, Except.pure] at columns
  simp only [Write.tableLines, tableName_eq writable, indented, Except.mapError, bind, Except.bind,
    pure, Except.pure, columns, lines, noteText?, headerText, Write.note?_eq]
  cases noteWritten layout table.note <;> simp [String.append_assoc]

theorem blank_indent (layout : Layout) : ∀ c ∈ layout.indent.toList, isBlank c = true := by
  intro c member
  rw [Layout.indent, spaces, String.toList_ofList] at member
  rw [List.eq_of_mem_replicate member]
  decide

theorem content?_indent (layout : Layout) {content : String} (trimmed : IsTrimmed content.toList)
    (nonempty : content ≠ "") (counts : SourceLine.isComment content.toList = false) :
    SourceLine.content? (layout.indent ++ content).toList = .some content := by
  have characters : content.toList ≠ [] := fun empty => nonempty (String.toList_eq_nil_iff.mp empty)
  rw [String.toList_append,
    SourceLine.content?_indented (blank_indent layout) trimmed characters counts,
    String.ofList_toList]

theorem content?_of_isTrimmed {content : String} (trimmed : IsTrimmed content.toList)
    (nonempty : content ≠ "") (counts : SourceLine.isComment content.toList = false) :
    SourceLine.content? content.toList = .some content := by
  have characters : content.toList ≠ [] := fun empty => nonempty (String.toList_eq_nil_iff.mp empty)
  have plain : SourceLine.content? ([] ++ content.toList) = .some (String.ofList content.toList) :=
    SourceLine.content?_indented (by simp) trimmed characters counts
  rwa [List.nil_append, String.ofList_toList] at plain

/-- The lines of the table count, each with its text. -/
theorem filterMap_content?_lines (writable : table.Writable) :
    (table.lines layout referencesOf).filterMap (fun line => SourceLine.content? line.toList) =
      table.texts layout referencesOf := by
  have header : SourceLine.content? (table.headerText layout).toList =
      some (table.headerText layout) := by
    refine content?_of_isTrimmed isTrimmed_headerText ?_ ?_
    · intro empty
      have characters := table.toList_headerText layout
      simp [empty] at characters
    · rw [toList_headerText]
      rfl
  have columns : (table.columns.map fun column =>
      layout.indent ++ column.text layout (referencesOf column)).filterMap
        (fun line => SourceLine.content? line.toList) =
      table.columns.map fun column => column.text layout (referencesOf column) := by
    rw [List.filterMap_map]
    refine List.filterMap_eq_map_iff_forall_eq_some.mpr fun column member => ?_
    have writableColumn := writable.columns column member
    refine content?_indent layout (Column.isTrimmed_text writableColumn) ?_
      (Column.isComment_text writableColumn)
    intro empty
    have characters := column.toList_text layout (referencesOf column)
    simp [empty] at characters
  have notes : ((table.noteText? layout).toList.map fun note => layout.indent ++ note).filterMap
      (fun line => SourceLine.content? line.toList) = (table.noteText? layout).toList := by
    unfold noteText?
    cases noteWritten layout table.note with
    | none => rfl
    | some note =>
        have nonempty : "Note: " ++ Write.quoted note ≠ "" := by
          intro empty
          have characters := toList_note note
          simp [empty] at characters
        have line := content?_indent layout (isTrimmed_note note) nonempty (by rw [toList_note]; rfl)
        simp only [Option.map_some, Option.toList_some, List.map_cons, List.map_nil,
          List.filterMap_cons, line, List.filterMap_nil]
  have brace : SourceLine.content? "\x7d".toList = some "\x7d" := by decide
  simp only [lines, List.cons_append, List.filterMap_cons, header, List.filterMap_append, columns,
    notes, brace, List.filterMap_nil, texts]

end Table

end TableScript
