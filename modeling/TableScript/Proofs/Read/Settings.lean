import TableScript.Read.Reference

namespace TableScript

def Problem.foundAt (problem : Problem) (line : SourceLine) (offset : Nat) : Diagnostic :=
  .make problem.severity problem.kind line.number (line.columnOf offset) problem.message none

@[simp] theorem Problem.kind_foundAt (problem : Problem) (line : SourceLine) (offset : Nat) :
    (problem.foundAt line offset).kind = problem.kind :=
  rfl

@[simp] theorem Problem.severity_foundAt (problem : Problem) (line : SourceLine) (offset : Nat) :
    (problem.foundAt line offset).severity = problem.severity :=
  rfl

namespace ReadState

variable {state : ReadState}

/-- The state with inline references and diagnostics behind those that it has. -/
def adding (state : ReadState) (uses : List InlineUse) (found : Journal) : ReadState :=
  { state with
    references := state.references ++ uses.map InlineUse.reference
    inlineUses := state.inlineUses ++ uses
    journal := state.journal ++ found
    referencesNumbered := state.referencesNumbered + uses.length }

@[simp] theorem catalog_adding (uses : List InlineUse) (found : Journal) :
    (state.adding uses found).catalog = state.catalog :=
  rfl

@[simp] theorem references_adding (uses : List InlineUse) (found : Journal) :
    (state.adding uses found).references = state.references ++ uses.map InlineUse.reference :=
  rfl

@[simp] theorem inlineUses_adding (uses : List InlineUse) (found : Journal) :
    (state.adding uses found).inlineUses = state.inlineUses ++ uses :=
  rfl

@[simp] theorem journal_adding (uses : List InlineUse) (found : Journal) :
    (state.adding uses found).journal = state.journal ++ found :=
  rfl

@[simp] theorem tablesNumbered_adding (uses : List InlineUse) (found : Journal) :
    (state.adding uses found).tablesNumbered = state.tablesNumbered :=
  rfl

@[simp] theorem columnsNumbered_adding (uses : List InlineUse) (found : Journal) :
    (state.adding uses found).columnsNumbered = state.columnsNumbered :=
  rfl

@[simp] theorem referencesNumbered_adding (uses : List InlineUse) (found : Journal) :
    (state.adding uses found).referencesNumbered = state.referencesNumbered + uses.length :=
  rfl

@[simp] theorem adding_nil : state.adding [] [] = state := by
  simp [adding]

theorem adding_adding (uses more : List InlineUse) (found next : Journal) :
    (state.adding uses found).adding more next = state.adding (uses ++ more) (found ++ next) := by
  simp [adding, Nat.add_assoc]

theorem reportAt_eq_adding (problem : Problem) (line : SourceLine) (offset : Nat) :
    state.reportAt problem line offset = state.adding [] [problem.foundAt line offset] := by
  simp [reportAt, reportAs, record, adding, Problem.foundAt]

theorem report_eq_adding (problem : Problem) (line : SourceLine) :
    state.report problem line = state.adding [] [problem.foundAt line 0] :=
  reportAt_eq_adding problem line 0

end ReadState

def Setting.inline? (setting : Setting) : Option InlineReference :=
  if setting.name = "ref" then InlineReference.read? (setting.value.getD "").toList else none

def Table.inlineUse (table : Table) (columnId columnName : String) (line : SourceLine)
    (inline : InlineReference) (number : Nat) : InlineUse where
  reference := {
    id := "ref_" ++ toString number
    source := ⟨table.schema, table.name, columnName⟩
    target := inline.target
    cardinality := inline.cardinality
    inline := true }
  columnId := columnId
  line := line

/-- The inline references that the settings of a column give, numbered one after the other. -/
def Table.inlineUses (table : Table) (columnId columnName : String) (line : SourceLine)
    (settings : List Setting) (number : Nat) : List InlineUse :=
  ((settings.filterMap Setting.inline?).zipIdx number).map fun (inline, place) =>
    table.inlineUse columnId columnName line inline place

def Column.afterSetting (column : Column) (setting : Setting) : Column :=
  let name := setting.name
  if name = "pk" || name = "primary key" then { column with primaryKey := true }
  else if name = "not null" then { column with notNull := true }
  else if name = "unique" then { column with unique := true }
  else if name = "default" then { column with default := setting.value <|> column.default }
  else if name = "note" then { column with note := setting.value }
  else if name = "ref" then
    { column with foreignKey := setting.inline?.isSome || column.foreignKey }
  else { column with properties := Entries.put setting.key setting.property column.properties }

def Setting.columnProblems (policy : Policy) (setting : Setting) : List Problem :=
  let name := setting.name
  if name = "pk" || name = "primary key" || name = "not null" || name = "unique" ||
      name = "note" then []
  else if name = "default" then if setting.isFlag then [.missingValue "default"] else []
  else if name = "ref" then
    if setting.inline?.isSome then [] else [.badInlineReference (setting.value.getD "")]
  else if policy.reportUnknownSettings then [.unknownSetting .column setting.key] else []

def Setting.columnDiagnostics (policy : Policy) (line : SourceLine) (settings : List Setting) :
    Journal :=
  (settings.flatMap (Setting.columnProblems policy)).map (·.foundAt line 0)

namespace ReadState

variable (policy : Policy) (state : ReadState) (line : SourceLine)

theorem takeInlineReference_eq (table : Table) (column : Column) {setting : Setting}
    (named : setting.name = "ref") :
    takeInlineReference line table (state, column) setting =
      (state.adding (table.inlineUses column.id column.name line [setting] state.referencesNumbered)
        (Setting.columnDiagnostics policy line [setting]), column.afterSetting setting) := by
  cases read : InlineReference.read? (setting.value.getD "").toList with
  | none =>
      simp [takeInlineReference, read, Table.inlineUses, Setting.inline?, named,
        Setting.columnDiagnostics, Setting.columnProblems, Column.afterSetting, report_eq_adding]
  | some inline =>
      simp [takeInlineReference, read, Table.inlineUses, Setting.inline?, named,
        Setting.columnDiagnostics, Setting.columnProblems, Column.afterSetting, numberReference,
        adding, Table.inlineUse]

theorem takeColumnSetting_eq (table : Table) (column : Column) (setting : Setting) :
    takeColumnSetting policy line table (state, column) setting =
      (state.adding (table.inlineUses column.id column.name line [setting] state.referencesNumbered)
        (Setting.columnDiagnostics policy line [setting]), column.afterSetting setting) := by
  by_cases reference : setting.name = "ref"
  · simpa [takeColumnSetting, reference] using
      takeInlineReference_eq policy state line table column reference
  have uses : table.inlineUses column.id column.name line [setting] state.referencesNumbered = [] := by
    simp [Table.inlineUses, Setting.inline?, reference]
  rw [uses]
  by_cases primary : setting.name = "pk" ∨ setting.name = "primary key"
  · rcases primary with named | named <;>
      simp [takeColumnSetting, Column.afterSetting, Setting.columnDiagnostics,
        Setting.columnProblems, named]
  obtain ⟨short, long⟩ := not_or.mp primary
  by_cases required : setting.name = "not null"
  · simp [takeColumnSetting, Column.afterSetting, Setting.columnDiagnostics,
      Setting.columnProblems, required]
  by_cases unique : setting.name = "unique"
  · simp [takeColumnSetting, Column.afterSetting, Setting.columnDiagnostics,
      Setting.columnProblems, unique]
  by_cases default : setting.name = "default"
  · cases given : setting.raw <;>
      simp [takeColumnSetting, Column.afterSetting, Setting.columnDiagnostics,
        Setting.columnProblems, default, Setting.isFlag, Setting.value, given, report_eq_adding]
  by_cases note : setting.name = "note"
  · simp [takeColumnSetting, Column.afterSetting, Setting.columnDiagnostics,
      Setting.columnProblems, note]
  cases reported : policy.reportUnknownSettings <;>
    simp [takeColumnSetting, Column.afterSetting, Setting.columnDiagnostics, Setting.columnProblems,
      reference, short, long, required, unique, default, note, reportUnknown, reported,
      report_eq_adding]

end ReadState

theorem Column.afterSetting_kept (column : Column) (setting : Setting) :
    (column.afterSetting setting).id = column.id ∧ (column.afterSetting setting).name = column.name ∧
      (column.afterSetting setting).type = column.type ∧
      (column.afterSetting setting).quotedName = column.quotedName := by
  unfold Column.afterSetting
  dsimp only
  repeat' split
  all_goals exact ⟨rfl, rfl, rfl, rfl⟩

theorem Column.foldl_afterSetting_kept (column : Column) (settings : List Setting) :
    (settings.foldl Column.afterSetting column).id = column.id ∧
      (settings.foldl Column.afterSetting column).name = column.name ∧
      (settings.foldl Column.afterSetting column).type = column.type ∧
      (settings.foldl Column.afterSetting column).quotedName = column.quotedName := by
  induction settings generalizing column with
  | nil => exact ⟨rfl, rfl, rfl, rfl⟩
  | cons setting settings ih =>
      obtain ⟨id, name, type, quoted⟩ := column.afterSetting_kept setting
      obtain ⟨ids, names, types, quotes⟩ := ih (column.afterSetting setting)
      exact ⟨ids.trans id, names.trans name, types.trans type, quotes.trans quoted⟩

theorem Table.inlineUses_cons (table : Table) (columnId columnName : String) (line : SourceLine)
    (setting : Setting) (settings : List Setting) (number : Nat) :
    table.inlineUses columnId columnName line (setting :: settings) number =
      table.inlineUses columnId columnName line [setting] number ++
        table.inlineUses columnId columnName line settings
          (number + (table.inlineUses columnId columnName line [setting] number).length) := by
  cases read : setting.inline? with
  | none => simp [inlineUses, read]
  | some inline => simp [inlineUses, read]

theorem Setting.columnDiagnostics_cons (policy : Policy) (line : SourceLine) (setting : Setting)
    (settings : List Setting) :
    Setting.columnDiagnostics policy line (setting :: settings) =
      Setting.columnDiagnostics policy line [setting] ++
        Setting.columnDiagnostics policy line settings := by
  simp [columnDiagnostics]

namespace ReadState

variable (policy : Policy) (state : ReadState) (line : SourceLine)

theorem foldl_takeColumnSetting (table : Table) (column : Column) (settings : List Setting) :
    settings.foldl (takeColumnSetting policy line table) (state, column) =
      (state.adding (table.inlineUses column.id column.name line settings state.referencesNumbered)
        (Setting.columnDiagnostics policy line settings),
        settings.foldl Column.afterSetting column) := by
  induction settings generalizing state column with
  | nil => simp [Table.inlineUses, Setting.columnDiagnostics]
  | cons setting settings ih =>
      obtain ⟨id, name, _, _⟩ := column.afterSetting_kept setting
      rw [List.foldl_cons, takeColumnSetting_eq, ih, id, name, adding_adding, List.foldl_cons,
        Setting.columnDiagnostics_cons policy line setting settings, referencesNumbered_adding,
        table.inlineUses_cons column.id column.name line setting settings]

end ReadState

def Table.afterSetting (table : Table) (setting : Setting) : Table :=
  if setting.name = "note" then { table with note := setting.value }
  else { table with properties := Entries.put setting.key setting.property table.properties }

def Setting.tableProblems (policy : Policy) (setting : Setting) : List Problem :=
  if setting.name ≠ "note" && policy.reportUnknownSettings then [.unknownSetting .table setting.key]
  else []

theorem Table.foldl_afterSetting_kept (table : Table) (settings : List Setting) :
    (settings.foldl Table.afterSetting table).id = table.id ∧
      (settings.foldl Table.afterSetting table).key = table.key ∧
      (settings.foldl Table.afterSetting table).columns = table.columns := by
  induction settings generalizing table with
  | nil => exact ⟨rfl, rfl, rfl⟩
  | cons setting settings ih =>
      have kept : (table.afterSetting setting).id = table.id ∧
          (table.afterSetting setting).key = table.key ∧
          (table.afterSetting setting).columns = table.columns := by
        unfold afterSetting
        split <;> exact ⟨rfl, rfl, rfl⟩
      obtain ⟨id, key, columns⟩ := kept
      obtain ⟨ids, keys, column⟩ := ih (table.afterSetting setting)
      exact ⟨ids.trans id, keys.trans key, column.trans columns⟩

namespace ReadState

variable (policy : Policy) (state : ReadState) (line : SourceLine)

theorem takeTableSetting_eq (table : Table) (setting : Setting) :
    takeTableSetting policy line (state, table) setting =
      (state.adding [] ((setting.tableProblems policy).map (·.foundAt line 0)),
        table.afterSetting setting) := by
  by_cases note : setting.name = "note"
  · simp [takeTableSetting, Table.afterSetting, Setting.tableProblems, note]
  · cases reported : policy.reportUnknownSettings <;>
      simp [takeTableSetting, Table.afterSetting, Setting.tableProblems, note, reportUnknown,
        reported, report_eq_adding]

theorem foldl_takeTableSetting (table : Table) (settings : List Setting) :
    settings.foldl (takeTableSetting policy line) (state, table) =
      (state.adding [] ((settings.flatMap (Setting.tableProblems policy)).map (·.foundAt line 0)),
        settings.foldl Table.afterSetting table) := by
  induction settings generalizing state table with
  | nil => simp
  | cons setting settings ih =>
      rw [List.foldl_cons, takeTableSetting_eq, ih, adding_adding, List.foldl_cons,
        List.flatMap_cons, List.map_append, List.append_nil]

end ReadState

def Setting.isDelete (setting : Setting) : Bool :=
  setting.name = "delete" || setting.name = "on delete"

def Setting.isUpdate (setting : Setting) : Bool :=
  setting.name = "update" || setting.name = "on update"

def Reference.afterSetting (reference : Reference) (setting : Setting) : Reference :=
  if setting.isDelete then { reference with onDelete := setting.value }
  else if setting.isUpdate then { reference with onUpdate := setting.value }
  else reference

def Setting.referenceProblems (policy : Policy) (setting : Setting) : List Problem :=
  if setting.isDelete || setting.isUpdate then
    match setting.value with
    | none => [.missingValue setting.key]
    | some action =>
        if String.ofList (Text.lower action.toList) ∈ referentialActions then []
        else [.unknownAction action]
  else if policy.reportUnknownSettings then [.unknownSetting .reference setting.key] else []

namespace ReadState

variable (policy : Policy) (state : ReadState) (line : SourceLine)

theorem takeAction_eq (setting : Setting) (named : (setting.isDelete || setting.isUpdate) = true) :
    state.takeAction line setting =
      (state.adding [] ((setting.referenceProblems policy).map (·.foundAt line 0)),
        setting.value) := by
  cases given : setting.value with
  | none => simp [takeAction, Setting.referenceProblems, named, given, report_eq_adding]
  | some action =>
      by_cases known : String.ofList (Text.lower action.toList) ∈ referentialActions <;>
        simp [takeAction, Setting.referenceProblems, named, given, known, report_eq_adding]

theorem takeReferenceSetting_eq (reference : Reference) (setting : Setting) :
    takeReferenceSetting policy line (state, reference) setting =
      (state.adding [] ((setting.referenceProblems policy).map (·.foundAt line 0)),
        reference.afterSetting setting) := by
  have deletes : (setting.name = "delete" || setting.name = "on delete") = setting.isDelete := rfl
  have updates : (setting.name = "update" || setting.name = "on update") = setting.isUpdate := rfl
  unfold takeReferenceSetting
  simp only [deletes, updates]
  cases delete : setting.isDelete with
  | true =>
      have action := takeAction_eq policy state line setting (by simp [delete])
      simp [action, Reference.afterSetting, delete]
  | false =>
      cases update : setting.isUpdate with
      | true =>
          have action := takeAction_eq policy state line setting (by simp [update])
          simp [action, Reference.afterSetting, delete, update]
      | false =>
          cases reported : policy.reportUnknownSettings <;>
            simp [Setting.referenceProblems, Reference.afterSetting, delete, update,
              reportUnknown, reported, report_eq_adding]

theorem foldl_takeReferenceSetting (reference : Reference) (settings : List Setting) :
    settings.foldl (takeReferenceSetting policy line) (state, reference) =
      (state.adding []
        ((settings.flatMap (Setting.referenceProblems policy)).map (·.foundAt line 0)),
        settings.foldl Reference.afterSetting reference) := by
  induction settings generalizing state reference with
  | nil => simp
  | cons setting settings ih =>
      rw [List.foldl_cons, takeReferenceSetting_eq, ih, adding_adding, List.foldl_cons,
        List.flatMap_cons, List.map_append, List.append_nil]

end ReadState

theorem Reference.foldl_afterSetting_kept (reference : Reference) (settings : List Setting) :
    (settings.foldl Reference.afterSetting reference).id = reference.id ∧
      (settings.foldl Reference.afterSetting reference).source = reference.source ∧
      (settings.foldl Reference.afterSetting reference).target = reference.target ∧
      (settings.foldl Reference.afterSetting reference).name = reference.name ∧
      (settings.foldl Reference.afterSetting reference).inline = reference.inline := by
  induction settings generalizing reference with
  | nil => exact ⟨rfl, rfl, rfl, rfl, rfl⟩
  | cons setting settings ih =>
      have kept : (reference.afterSetting setting).id = reference.id ∧
          (reference.afterSetting setting).source = reference.source ∧
          (reference.afterSetting setting).target = reference.target ∧
          (reference.afterSetting setting).name = reference.name ∧
          (reference.afterSetting setting).inline = reference.inline := by
        unfold afterSetting
        split
        · exact ⟨rfl, rfl, rfl, rfl, rfl⟩
        · split <;> exact ⟨rfl, rfl, rfl, rfl, rfl⟩
      obtain ⟨id, source, target, name, inline⟩ := kept
      obtain ⟨ids, sources, targets, names, inlines⟩ := ih (reference.afterSetting setting)
      exact ⟨ids.trans id, sources.trans source, targets.trans target, names.trans name,
        inlines.trans inline⟩

/-- No setting stops the reading. -/
theorem Setting.kind_of_mem_problems {policy : Policy} {setting : Setting} {problem : Problem}
    (member : problem ∈ setting.columnProblems policy ∨ problem ∈ setting.tableProblems policy ∨
      problem ∈ setting.referenceProblems policy) : problem.kind ≠ .internal := by
  rcases member with column | table | reference
  · unfold columnProblems at column
    dsimp only at column
    repeat' split at column
    all_goals simp at column
    all_goals simp [column, Problem.kind]
  · unfold tableProblems at table
    split at table
    · rw [List.mem_singleton.mp table]
      simp [Problem.kind]
    · cases table
  · unfold referenceProblems at reference
    repeat' split at reference
    all_goals simp at reference
    all_goals simp [reference, Problem.kind]

end TableScript
