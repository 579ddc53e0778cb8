import TableScript.Proofs.Read.Compared.Script
import TableScript.Proofs.Read.Sound.Inline
import TableScript.Proofs.Write.Contents

namespace TableScript

/-- Layouts that write the same notes and settings. They differ in the comments around the tables, in how far
the bodies of these are indented, and in blank lines at most. -/
structure Layout.SameWords (first second : Layout) : Prop where
  comments : second.comments = first.comments
  properties : second.properties = first.properties

namespace Layout.SameWords

variable {first second : Layout} (same : first.SameWords second)
include same

theorem properties_eq (entries : Properties) :
    Write.properties second entries = Write.properties first entries := by
  rw [Write.properties, Write.properties, same.properties]

theorem note?_eq (note : Option String) : Write.note? second note = Write.note? first note := by
  cases note with
  | none => rfl
  | some text => simp only [Write.note?, same.comments]

theorem columnLine_eq (column : Column) (references : List Reference) :
    Write.columnLine second column references = Write.columnLine first column references := by
  simp only [Write.columnLine, Write.columnSettings, same.properties_eq, same.note?_eq]

theorem referenceBlock_eq (references : List Reference) :
    Write.referenceBlock second references = Write.referenceBlock first references := by
  rw [Write.referenceBlock, Write.referenceBlock, same.comments]

theorem tableContents_eq (indent : second.checkIndent = first.checkIndent) :
    Write.tableContents second = Write.tableContents first := by
  funext referencesOf table
  simp only [Write.tableContents, indent, same.columnLine_eq, same.note?_eq, same.properties_eq]

end Layout.SameWords

namespace Write

variable {layout : Layout} {now : Timestamp} {schema : Schema} {table : Table}

theorem exists_of_mapM_error {α β ε : Type} {write : α → Except ε β} {list : List α} {error : ε}
    (failed : list.mapM write = .error error) : ∃ x ∈ list, write x = .error error := by
  induction list with
  | nil => cases failed
  | cons x rest ih =>
      rw [List.mapM_cons] at failed
      cases here : write x with
      | error other =>
          rw [here] at failed
          cases failed
          exact ⟨x, List.mem_cons_self, here⟩
      | ok part =>
          cases behind : rest.mapM write with
          | error other =>
              rw [here, behind] at failed
              cases failed
              obtain ⟨y, member, refused⟩ := ih behind
              exact ⟨y, List.mem_cons_of_mem x member, refused⟩
          | ok parts =>
              rw [here, behind] at failed
              cases failed

theorem tableName_ne_badIndent (table : Table) (error : Text.RunError) :
    tableName table ≠ .error (.badIndent error) := by
  intro refused
  unfold tableName at refused
  split at refused
  · cases refused
  · split at refused
    · cases refused
    · split at refused <;> cases refused

theorem columnLine_ne_badIndent (layout : Layout) (column : Column) (references : List Reference)
    (error : Text.RunError) : columnLine layout column references ≠ .error (.badIndent error) := by
  intro refused
  unfold columnLine at refused
  split at refused
  · cases named : columnName column with
    | error other =>
        rw [named] at refused
        cases refused
        unfold columnName at named
        dsimp only at named
        split at named
        · cases named
        · split at named
          · cases named
          · split at named <;> cases named
    | ok name =>
        rw [named] at refused
        cases refused
  · cases refused

/-- Only a body that cannot be indented is refused for its indentation. -/
theorem checkIndent_of_tableLines {referencesOf : Column → List Reference} {error : Text.RunError}
    (failed : tableLines layout referencesOf table = .error (.badIndent error)) :
    layout.checkIndent = .error error := by
  unfold tableLines at failed
  cases named : tableName table with
  | error other =>
      rw [named] at failed
      cases failed
      exact absurd named (tableName_ne_badIndent table error)
  | ok name =>
      cases indented : layout.checkIndent with
      | error other =>
          rw [named, indented] at failed
          cases failed
          rfl
      | ok held =>
          rw [named, indented] at failed
          dsimp only [Except.mapError, bind, Except.bind] at failed
          split at failed
          · rename_i columns
            cases failed
            obtain ⟨column, _, refused⟩ := exists_of_mapM_error columns
            cases line : columnLine layout column (referencesOf column) with
            | error other =>
                rw [line] at refused
                cases refused
                exact absurd line (columnLine_ne_badIndent layout column _ error)
            | ok text =>
                rw [line] at refused
                cases refused
          · cases failed

theorem script_of_tableName {table : Table} {tables : List Table} {error : WriteError}
    (first : schema.tables = table :: tables) (refused : tableName table = .error error) :
    script layout now schema = .error error := by
  rw [script, blocks, first, List.mapM_cons, tableLines, refused]
  rfl

theorem script_of_checkIndent {table : Table} {tables : List Table} {name : String}
    {error : Text.RunError} (first : schema.tables = table :: tables) (named : tableName table = .ok name)
    (wide : layout.checkIndent = .error error) :
    script layout now schema = .error (.badIndent error) := by
  rw [script, blocks, first, List.mapM_cons, tableLines, named, wide]
  rfl

theorem checkIndent_of_script {error : Text.RunError}
    (failed : script layout now schema = .error (.badIndent error)) :
    layout.checkIndent = .error error := by
  rw [script, blocks] at failed
  cases tables : schema.tables.mapM fun table =>
      tableLines layout (schema.inlineReferences table) table with
  | error other =>
      rw [tables] at failed
      cases failed
      obtain ⟨table, _, refused⟩ := exists_of_mapM_error tables
      exact checkIndent_of_tableLines refused
  | ok written =>
      rw [tables] at failed
      cases failed

end Write

/-- There is no table, or the first one cannot be named, so that nothing comes to be indented. -/
def Schema.IndentsNothing (schema : Schema) : Prop :=
  ∀ table ∈ schema.tables.head?, ∃ error, Write.tableName table = .error error

theorem Schema.exists_of_not_indentsNothing {schema : Schema} (indents : ¬schema.IndentsNothing) :
    ∃ table tables name, schema.tables = table :: tables ∧ Write.tableName table = .ok name := by
  simp only [IndentsNothing, not_forall] at indents
  obtain ⟨table, first, legal⟩ := indents
  obtain ⟨tables, split⟩ := List.head?_eq_some_iff.mp first
  cases named : Write.tableName table with
  | ok name => exact ⟨table, tables, name, split, named⟩
  | error error => exact absurd ⟨error, named⟩ legal

theorem WriteError.report_ne (message other : String) :
    "Generation failed: " ++ message ≠ "Unexpected generation error: " ++ other := by
  intro same
  have characters := congrArg String.toList same
  rw [String.toList_append, String.toList_append] at characters
  have first : 'G' = 'U' := (List.cons.inj characters).1
  exact absurd first (by decide)

theorem WriteError.eq_badIndent_of_report {error : WriteError} {indent : Text.RunError}
    (same : error.report = (badIndent indent).report) : error = badIndent indent := by
  cases error with
  | badIndent other =>
      cases other <;> cases indent
      · rfl
      · exact absurd same (by decide)
      · exact absurd same (by decide)
      · rfl
  | badTableName name | badSchemaName name | badType type | badColumnName name =>
      exact absurd same (report_ne _ _)

section

variable {first second : Layout} {now later : Timestamp} {schema : Schema}

/-- Both scripts say the same, or there is neither for the same reason. -/
theorem Layout.SameWords.map_contents_script (same : first.SameWords second)
    (nowOneLine : '\n' ∉ now.toList) (laterOneLine : '\n' ∉ later.toList)
    (oneLine : schema.metadata.IsOneLine)
    (alike : second.checkIndent = first.checkIndent ∨ schema.IndentsNothing) :
    (fun script => (SourceLine.ofScript script).map SourceLine.text) <$> Write.script second later schema =
      (fun script => (SourceLine.ofScript script).map SourceLine.text) <$> Write.script first now schema := by
  rcases alike with indent | nothing
  · simp only [Write.map_said_script _ laterOneLine oneLine, Write.map_said_script _ nowOneLine oneLine,
      same.tableContents_eq indent, same.referenceBlock_eq]
  · cases tables : schema.tables with
    | nil =>
        simp only [Write.map_said_script _ laterOneLine oneLine, Write.map_said_script _ nowOneLine oneLine,
          tables, List.mapM_nil, same.referenceBlock_eq]
    | cons table rest =>
        obtain ⟨error, refused⟩ := nothing table (by rw [tables]; rfl)
        rw [Write.script_of_tableName tables refused, Write.script_of_tableName tables refused]

/-- Whoever is warned of the same thing can indent as far. -/
theorem Layout.checkIndent_of_warnings {table : Table} {tables : List Table} {name : String}
    {error : Text.RunError} (head : schema.tables = table :: tables)
    (named : Write.tableName table = .ok name) (wide : first.checkIndent = .error error)
    (warned : (Writing.ofSchema second later schema).warnings =
      (Writing.ofSchema first now schema).warnings) :
    second.checkIndent = .error error := by
  have failed : Write.script first now schema = _ := Write.script_of_checkIndent head named wide
  simp only [Writing.ofSchema, failed] at warned
  cases written : Write.script second later schema with
  | ok text =>
      rw [written] at warned
      cases warned
  | error other =>
      rw [written] at warned
      have report : other.report = _ := List.head_eq_of_cons_eq warned
      rw [WriteError.eq_badIndent_of_report report] at written
      exact Write.checkIndent_of_script written

/-- Two layouts come to the same for a schema exactly if both can indent it, or neither for the same reason, or
there is nothing to indent. -/
theorem Layout.SameWords.outcome_eq_iff (same : first.SameWords second)
    (nowOneLine : '\n' ∉ now.toList) (laterOneLine : '\n' ∉ later.toList)
    (oneLine : schema.metadata.IsOneLine) :
    ((Writing.ofSchema second later schema).succeeded = (Writing.ofSchema first now schema).succeeded ∧
        (Writing.ofSchema second later schema).warnings = (Writing.ofSchema first now schema).warnings) ↔
      second.checkIndent = first.checkIndent ∨ schema.IndentsNothing := by
  constructor
  · rintro ⟨_, warned⟩
    by_cases nothing : schema.IndentsNothing
    · exact .inr nothing
    · obtain ⟨table, tables, name, head, named⟩ := Schema.exists_of_not_indentsNothing nothing
      left
      cases wide : first.checkIndent with
      | error error => exact checkIndent_of_warnings head named wide warned
      | ok held =>
          cases wider : second.checkIndent with
          | ok alsoHeld => rfl
          | error error =>
              have refused := checkIndent_of_warnings head named wider warned.symm
              rw [wide] at refused
              cases refused
  · intro alike
    have both := same.map_contents_script nowOneLine laterOneLine oneLine alike
    unfold Writing.ofSchema
    cases written : Write.script first now schema with
    | ok text =>
        cases rewritten : Write.script second later schema with
        | ok other => exact ⟨rfl, rfl⟩
        | error other =>
            rw [written, rewritten] at both
            cases both
    | error error =>
        cases rewritten : Write.script second later schema with
        | ok other =>
            rw [written, rewritten] at both
            cases both
        | error other =>
            rw [written, rewritten] at both
            cases both
            exact ⟨rfl, rfl⟩

end

/-- Lines that say the same. -/
def Comparison.ofText : Comparison where
  pairs line other := other.text = line.text
  sameText same := same

theorem ReadState.alike_ofLines (policy : Policy) {script other : String}
    (sameContent : (SourceLine.ofScript other).map SourceLine.text =
      (SourceLine.ofScript script).map SourceLine.text) :
    Alike .ofText (ofLines policy .none (SourceLine.ofScript script))
      (ofLines policy .none (SourceLine.ofScript other)) := by
  have aligned : List.Forall₂ Comparison.ofText.pairs (SourceLine.ofScript script)
      (SourceLine.ofScript other) := by
    have texts : List.Forall₂ (fun text other => other = text)
        ((SourceLine.ofScript script).map SourceLine.text)
      ((SourceLine.ofScript other).map SourceLine.text) := by
      rw [sameContent]
      exact List.forall₂_same.mpr fun _ _ => rfl
    rwa [List.forall₂_map_left_iff, List.forall₂_map_right_iff] at texts
  obtain ⟨read, after, lines, _, checked, _, whole⟩ := ofLines_checked policy script
  obtain ⟨reread, last, others, _, rechecked, _, again⟩ := ofLines_checked policy other
  have initial : Alike .ofText {} {} := Alike.refl {} _ Comparison.ofText.sameText (by simp)
  obtain ⟨_, sameLines, together⟩ := initial.readLines aligned lines
  rw [others] at sameLines
  cases sameLines
  obtain ⟨_, sameCheck, alike⟩ := together.checkInlines checked
  rw [rechecked] at sameCheck
  cases sameCheck
  rwa [whole, again]

theorem ReadState.Alike.map_message {first second : ReadState} (alike : Alike .ofText first second)
    (severity : Severity) :
    (second.journal.ofSeverity severity).map Diagnostic.message =
      (first.journal.ofSeverity severity).map Diagnostic.message := by
  obtain ⟨found, others, journal, otherJournal, together⟩ := alike.ofSeverity severity
  have messages : ∀ {found others : List Diagnostic},
      List.Forall₂ (Diagnostic.Alike Comparison.ofText.pairs) found others →
      others.map Diagnostic.message = found.map Diagnostic.message := by
    intro found others together
    induction together with
    | nil => rfl
    | cons pair _ ih => rw [List.map_cons, List.map_cons, pair.message, ih]
  rw [journal, otherJournal, List.map_append, List.map_append, messages together]
  rfl

/-- Scripts whose lines say the same are read alike, apart from the places of what is found. -/
theorem Reading.eq_of_sameContent (policy : Policy) {script other : String}
    (sameContent : (SourceLine.ofScript other).map SourceLine.text =
      (SourceLine.ofScript script).map SourceLine.text) :
    let reading := ofScript policy script
    let again := ofScript policy other
    again.tables = reading.tables ∧ again.references = reading.references ∧
      again.features = reading.features ∧
      again.errors.map Diagnostic.message = reading.errors.map Diagnostic.message ∧
      again.warnings.map Diagnostic.message = reading.warnings.map Diagnostic.message := by
  have alike := ReadState.alike_ofLines policy sameContent
  have features := alike.featuresUsed
  simp only [Comparison.ofText, List.not_mem_nil, not_false_eq_true, decide_true,
    List.filter_true] at features
  exact ⟨congrArg Catalog.tables alike.catalog, alike.references, features, alike.map_message .error,
    alike.map_message .warning⟩

namespace Writing

theorem script_eq_ok_of_succeeded {layout : Layout} {now : Timestamp} {schema : Schema}
    (succeeded : (ofSchema layout now schema).succeeded = true) :
    (ofSchema layout now schema).warnings = [] ∧
      Write.script layout now schema = .ok (ofSchema layout now schema).text := by
  unfold ofSchema at succeeded ⊢
  cases script : Write.script layout now schema with
  | ok text => exact ⟨rfl, rfl⟩
  | error error =>
      rw [script] at succeeded
      cases succeeded

/-- A schema, expressible or not, comes to the same in two layouts that write the same notes and settings,
unless the indentation of just one of them can be held where a table is to be indented. Where both write it,
the lines of the scripts say the same, and are read alike. -/
theorem sameOutcome_iff {first second : Layout} (same : first.SameWords second) {schema : Schema}
    (oneLine : schema.metadata.IsOneLine) {now later : Timestamp} (nowOneLine : '\n' ∉ now.toList)
    (laterOneLine : '\n' ∉ later.toList) :
    let writing := ofSchema first now schema
    let other := ofSchema second later schema
    ((other.succeeded = writing.succeeded ∧ other.warnings = writing.warnings) ↔
        second.checkIndent = first.checkIndent ∨ schema.IndentsNothing) ∧
      (writing.succeeded = true → other.succeeded = true →
        (SourceLine.ofScript other.text).map SourceLine.text =
            (SourceLine.ofScript writing.text).map SourceLine.text ∧
          ∀ policy : Policy,
            let reading := Reading.ofScript policy writing.text
            let again := Reading.ofScript policy other.text
            again.tables = reading.tables ∧ again.references = reading.references ∧
              again.features = reading.features ∧
              again.errors.map Diagnostic.message = reading.errors.map Diagnostic.message ∧
              again.warnings.map Diagnostic.message = reading.warnings.map Diagnostic.message) := by
  intro writing other
  have outcome := same.outcome_eq_iff nowOneLine laterOneLine oneLine
  refine ⟨outcome, fun written rewritten => ?_⟩
  obtain ⟨unwarned, script⟩ := script_eq_ok_of_succeeded written
  obtain ⟨alsoUnwarned, otherScript⟩ := script_eq_ok_of_succeeded rewritten
  have both := same.map_contents_script nowOneLine laterOneLine oneLine
    (outcome.mp ⟨rewritten.trans written.symm, alsoUnwarned.trans unwarned.symm⟩)
  rw [script, otherScript] at both
  have sameContent := Except.ok.inj both
  exact ⟨sameContent, fun policy => Reading.eq_of_sameContent policy sameContent⟩

/-- A type that breaks its line, written with a header and without one. -/
theorem sameOutcome_brokenType :
    let table : Table := { id := "table_0", name := "t", columns := [
      { id := "col_0", name := "c", type := "enum(x\n\n  y)" }] }
    let schema : Schema := { tables := [table], metadata := .fresh "now" }
    let plain : Layout := { metadata := false, indentSize := 4, blankLines := false }
    let writing := ofSchema {} "now" schema
    let other := ofSchema plain "later" schema
    Layout.SameWords {} plain ∧ schema.metadata.IsOneLine ∧ '\n' ∉ "now".toList ∧ '\n' ∉ "later".toList ∧
      writing.succeeded = true ∧ other.succeeded = true ∧ other.warnings = writing.warnings ∧
      (SourceLine.ofScript other.text).map SourceLine.text =
        (SourceLine.ofScript writing.text).map SourceLine.text ∧
      (Reading.ofScript {} other.text).warnings.map Diagnostic.message =
        (Reading.ofScript {} writing.text).warnings.map Diagnostic.message := by
  intro table schema plain writing other
  have same : Layout.SameWords {} plain := ⟨rfl, rfl⟩
  have oneLine : schema.metadata.IsOneLine := by decide
  have now : '\n' ∉ "now".toList := by decide
  have later : '\n' ∉ "later".toList := by decide
  have written : writing.succeeded = true := by decide +kernel
  have rewritten : other.succeeded = true := by decide +kernel
  obtain ⟨outcome, contents⟩ := sameOutcome_iff same oneLine now later
  obtain ⟨sameContent, read⟩ := contents written rewritten
  obtain ⟨_, warned⟩ := outcome.mpr (.inl rfl)
  obtain ⟨_, _, _, _, warnings⟩ := read {}
  exact ⟨same, oneLine, now, later, written, rewritten, warned, sameContent, warnings⟩

/-- An indentation that cannot be counted, where another one can be written. -/
theorem sameOutcome_uncountable :
    let schema : Schema := { tables := [{ id := "table_0", name := "a" }], metadata := .fresh "now" }
    let wide : Layout := { metadata := false, indentSize := 9223372036854775808 }
    Layout.SameWords {} wide ∧ schema.metadata.IsOneLine ∧
      (ofSchema {} "now" schema).succeeded = true ∧ (ofSchema wide "now" schema).succeeded = false := by
  exact ⟨⟨rfl, rfl⟩, by decide, by decide +kernel, by decide +kernel⟩

end Writing

end TableScript
