import TableScript.Proofs.Read.Binding
import TableScript.Proofs.Read.Dropping
import TableScript.Proofs.Read.Quiet.Script
import TableScript.Proofs.Read.Quiet.Warnings

namespace TableScript

theorem ReadState.goesOn_checkInline {state next : ReadState} {check : TargetCheck} {use : InlineUse}
    (done : checkInline check state use = .ok next) : state.journal.GoesOn next.journal := by
  unfold checkInline at done
  cases missing : missingTarget? state.catalog use.reference.target with
  | none =>
      rw [missing] at done
      cases done
      exact .refl _
  | some problem =>
      have other := missingTarget?_isUnknownSetting missing
      rw [missing] at done
      cases check with
      | ignore =>
          cases done
          exact .refl _
      | warn =>
          cases done
          exact state.goesOn_reportAs .warning other use.line 0
      | fail =>
          rw [eq_of_dropInline done]
          exact state.goesOn_reportAs .error other use.line 0

/-- There is a warning of every action that is not known and that one of the settings names. -/
def Journal.WarnsOfActions (journal : Journal) (settings : List Setting) : Prop :=
  ∀ setting ∈ settings, ∀ action, setting.AsksFor action → isKnownAction action = false →
    journal.Warns (.unknownAction action)

/-- The reference is read from one of the lines, with a warning of every action there that is not known. -/
def Reference.IsAccountedFor (lines : List SourceLine) (journal : Journal) (reference : Reference) : Prop :=
  ∃ line ∈ lines, ∃ written, ReferenceLine.read? line.text.toList = some written ∧
    reference.source = written.source ∧ reference.target = written.target ∧
    journal.WarnsOfActions written.settingList

theorem Reference.IsAccountedFor.mono {lines : List SourceLine} {journal after : Journal}
    {reference : Reference} (accounted : reference.IsAccountedFor lines journal)
    (more : ∀ {problem}, journal.Warns problem → after.Warns problem) :
    reference.IsAccountedFor lines after := by
  obtain ⟨line, among, written, read, source, target, warns⟩ := accounted
  exact ⟨line, among, written, read, source, target,
    fun setting inside action asks unknown => more (warns setting inside action asks unknown)⟩

/-- Tables and references are read from the lines. Of keys that are not known just those are warned of that
were kept, and of all actions that are not known. -/
structure Accounts (lines : List SourceLine) (journal : Journal) (references : List Reference)
    (tables : List Table) : Prop where
  table : ∀ key, journal.Warns (.unknownSetting .table key) ↔ key ∈ tables.flatMap Table.keys
  column : ∀ key, journal.Warns (.unknownSetting .column key) ↔ key ∈ tables.flatMap Table.columnKeys
  readFrom : ∀ table ∈ tables, table.IsReadFrom lines
  action : ∀ reference ∈ references, reference.inline = false → reference.IsAccountedFor lines journal

namespace Accounts

variable {lines following : List SourceLine} {journal after : Journal} {references others : List Reference}
  {tables same front : List Table} {table : Table} {policy : Policy} {state next : ReadState}
  {line : SourceLine}

theorem initial (lines : List SourceLine) : Accounts lines [] [] [] where
  table key := by simp [Journal.Warns, Journal.warnings, Journal.ofSeverity]
  column key := by simp [Journal.Warns, Journal.warnings, Journal.ofSeverity]
  readFrom := List.forall_mem_nil _
  action := List.forall_mem_nil _

theorem goesOn (accounts : Accounts lines journal references tables) (goesOn : journal.GoesOn after) :
    Accounts lines after references tables where
  table key := goesOn.warns_iff.trans (accounts.table key)
  column key := goesOn.warns_iff.trans (accounts.column key)
  readFrom := accounts.readFrom
  action reference member standalone := (accounts.action reference member standalone).mono goesOn.warns

theorem congr (accounts : Accounts lines journal references tables)
    (keys : same.flatMap Table.keys = tables.flatMap Table.keys)
    (columnKeys : same.flatMap Table.columnKeys = tables.flatMap Table.columnKeys)
    (readFrom : ∀ table ∈ same, table.IsReadFrom lines) (fewer : others ⊆ references) :
    Accounts lines journal others same where
  table key := by rw [keys, accounts.table]
  column key := by rw [columnKeys, accounts.column]
  readFrom := readFrom
  action reference member := accounts.action reference (fewer member)

/-- Marks are no settings. -/
theorem unmarked (accounts : Accounts lines journal references tables)
    (unmarked : same.map Table.unmarked = tables.map Table.unmarked) (fewer : others ⊆ references) :
    Accounts lines journal others same := by
  have keys : ∀ tables : List Table, tables.flatMap Table.keys =
      (tables.map Table.unmarked).flatMap Table.keys := by
    intro tables
    rw [List.flatMap_map]
    rfl
  have columnKeys : ∀ tables : List Table, tables.flatMap Table.columnKeys =
      (tables.map Table.unmarked).flatMap Table.columnKeys := by
    intro tables
    rw [List.flatMap_map]
    refine List.flatMap_congr fun table _ => ?_
    unfold Table.columnKeys
    rw [Table.unmarked, Table.withColumns, List.flatMap_map]
    rfl
  refine accounts.congr (by rw [keys same, unmarked, ← keys]) (by rw [columnKeys same, unmarked, ← columnKeys])
    (fun table member => ?_) fewer
  have among := List.mem_map_of_mem (f := Table.unmarked) member
  rw [unmarked] at among
  obtain ⟨other, inside, bare⟩ := List.mem_map.mp among
  exact (accounts.readFrom other inside).congr bare.symm

theorem extend (accounts : Accounts lines journal references tables) {found : Journal} (more : List Reference)
    (keys : ∀ key, key ∈ same.flatMap Table.keys ↔
      key ∈ tables.flatMap Table.keys ∨ found.Warns (.unknownSetting .table key))
    (columnKeys : ∀ key, key ∈ same.flatMap Table.columnKeys ↔
      key ∈ tables.flatMap Table.columnKeys ∨ found.Warns (.unknownSetting .column key))
    (readFrom : ∀ table ∈ same, table.IsReadFrom lines)
    (actions : ∀ reference ∈ more, reference.inline = false → reference.IsAccountedFor lines found) :
    Accounts lines (journal ++ found) (references ++ more) same where
  table key := by rw [Journal.warns_append, accounts.table, keys]
  column key := by rw [Journal.warns_append, accounts.column, columnKeys]
  readFrom := readFrom
  action := by
    intro reference member standalone
    rcases List.mem_append.mp member with old | new
    · exact (accounts.action reference old standalone).mono fun warns => Journal.warns_append.mpr (.inl warns)
    · exact (actions reference new standalone).mono fun warns => Journal.warns_append.mpr (.inr warns)

theorem passes (accounts : Accounts lines state.journal state.references state.catalog.tables)
    (passes : state.Passes next) : Accounts lines next.journal next.references next.catalog.tables := by
  rw [passes.catalog, passes.references]
  exact accounts.goesOn passes.journal

theorem withHeader (accounts : Accounts lines state.journal state.references tables)
    (loud : policy.reportUnknownSettings = true) {header : TableHeader} (among : line ∈ lines)
    (read : TableHeader.read? line.text.toList = some header) (number : Nat) :
    Accounts lines (state.withHeader policy line header).journal
      (state.withHeader policy line header).references (tables ++ [header.table number]) := by
  obtain ⟨_, _, noColumns⟩ := header.table_kept number
  refine accounts.extend [] (fun key => ?_) (fun key => ?_) ?_ (List.forall_mem_nil _)
  · rw [List.flatMap_append, List.flatMap_singleton, List.mem_append, TableHeader.diagnostics,
      Journal.warns_unknownSetting_iff, Setting.mem_flatMap_iff loud (Setting.reported_table policy),
      Table.keys, header.properties_table]
  · have silent : ¬ (header.diagnostics policy line).Warns (.unknownSetting .column key) := by
      rw [TableHeader.diagnostics, Journal.warns_unknownSetting_iff, List.mem_flatMap]
      rintro ⟨setting, _, member⟩
      cases ((setting.reported_table policy).mem_iff.mp member).2.2.1
    rw [List.flatMap_append, List.flatMap_singleton, Table.columnKeys, noColumns, List.flatMap_nil,
      List.append_nil, or_iff_left silent]
  · exact List.forall_mem_append.mpr ⟨accounts.readFrom,
      List.forall_mem_singleton.mpr (Table.isReadFrom_header among read number)⟩

theorem withColumn (accounts : Accounts lines state.journal state.references (front ++ [table]))
    (loud : policy.reportUnknownSettings = true) {declared : ColumnLine} (among : line ∈ lines)
    (read : ColumnLine.read? line.text.toList = some declared) (number : Nat) :
    Accounts lines (state.withColumn policy table line declared).journal
      (state.withColumn policy table line declared).references
      (front ++ [{ table with columns := table.columns ++ [declared.column number] }]) := by
  refine accounts.extend _ (fun key => ?_) (fun key => ?_) ?_ ?_
  · have silent : ¬ (declared.diagnostics policy line).Warns (.unknownSetting .table key) := by
      rw [ColumnLine.warns_diagnostics_iff, List.mem_flatMap]
      rintro ⟨setting, _, member⟩
      cases ((setting.reported_column policy).mem_iff.mp member).2.2.1
    rw [or_iff_left silent]
    simp only [List.flatMap_append, List.flatMap_singleton]
    rfl
  · have column : key ∈ (declared.column number).keys ↔
        (declared.diagnostics policy line).Warns (.unknownSetting .column key) := by
      rw [ColumnLine.warns_diagnostics_iff, Setting.mem_flatMap_iff loud (Setting.reported_column policy),
        Column.keys, declared.properties_column]
    rw [← column]
    simp only [List.flatMap_append, List.flatMap_singleton, Table.columnKeys, List.mem_append, or_assoc]
  · obtain ⟨others, last⟩ := List.forall_mem_append.mp accounts.readFrom
    have readFrom := (List.forall_mem_singleton.mp last).withColumn among read number
    exact List.forall_mem_append.mpr ⟨others, List.forall_mem_singleton.mpr readFrom⟩
  · intro reference member standalone
    obtain ⟨use, inside, rfl⟩ := List.mem_map.mp member
    obtain ⟨_, _, rfl⟩ := List.mem_map.mp inside
    cases standalone

theorem withReference (accounts : Accounts lines state.journal state.references state.catalog.tables)
    {written : ReferenceLine} (among : line ∈ lines)
    (read : ReferenceLine.read? line.text.toList = some written) (source : Table) :
    Accounts lines (state.withReference policy line written source).journal
      (state.withReference policy line written source).references
      (state.withReference policy line written source).catalog.tables := by
  have marking := Catalog.isMarking_markForeignKey source.key written.source.column
  have silent : ∀ owner ≠ SettingOwner.reference, ∀ key,
      ¬ (written.diagnostics policy line).Warns (.unknownSetting owner key) := by
    intro owner other key
    rw [ReferenceLine.diagnostics, Journal.warns_unknownSetting_iff, List.mem_flatMap]
    rintro ⟨setting, _, member⟩
    exact other ((setting.reported_reference policy).mem_iff.mp member).2.2.1
  have added : Accounts lines (state.withReference policy line written source).journal
      (state.withReference policy line written source).references state.catalog.tables := by
    refine accounts.extend _ (fun key => ?_) (fun key => ?_) accounts.readFrom ?_
    · rw [or_iff_left (silent .table (by decide) key)]
    · rw [or_iff_left (silent .column (by decide) key)]
    · obtain ⟨_, begins, ends, _⟩ := written.reference_kept state.referencesNumbered
      refine List.forall_mem_singleton.mpr fun _ => ⟨line, among, written, read, begins, ends, ?_⟩
      intro setting inside action asks unknown
      exact Journal.warns_of_mem
        (List.mem_flatMap.mpr ⟨setting, inside, Setting.unknownAction_mem asks unknown⟩) rfl
  exact added.unmarked (marking.map_unmarked state.catalog.tables) (List.Subset.refl _)

theorem takeBodyItem (accounts : Accounts lines state.journal state.references (front ++ [table]))
    (loud : policy.reportUnknownSettings = true) {item : BodyItem} (among : item.line ∈ lines) :
    Accounts lines (ReadState.takeBodyItem policy (state, table) item).1.journal
      (ReadState.takeBodyItem policy (state, table) item).1.references
      (front ++ [(ReadState.takeBodyItem policy (state, table) item).2]) := by
  cases item with
  | column line =>
      rcases ReadState.readColumn_cases policy state table line with
        ⟨declared, read, _, taken⟩ | ⟨problem, refusal, reported⟩
      · simp only [ReadState.takeBodyItem, taken]
        exact accounts.withColumn loud among read state.columnsNumbered
      · simp only [ReadState.takeBodyItem, reported]
        have grave := Problem.isUnknownSetting_of_error refusal.grave.1
        exact accounts.goesOn (state.passes_report grave line).journal
  | note line =>
      simp only [ReadState.takeBodyItem, ReadState.readNote]
      cases noteText? line.text.toList with
      | none => exact accounts.goesOn (state.passes_report rfl line).journal
      | some text =>
          cases text with
          | nil => exact accounts.goesOn (state.passes_report rfl line).journal
          | cons c text =>
              obtain ⟨others, last⟩ := List.forall_mem_append.mp accounts.readFrom
              have readFrom := List.forall_mem_singleton.mp last
              refine accounts.congr ?_ ?_ (List.forall_mem_append.mpr ⟨others, ?_⟩) (List.Subset.refl _)
              · simp only [List.flatMap_append, List.flatMap_singleton]
                rfl
              · simp only [List.flatMap_append, List.flatMap_singleton]
                rfl
              · exact List.forall_mem_singleton.mpr ⟨readFrom.header, readFrom.columns⟩
  | indexes line closed =>
      have noticed := state.passes_noticeBlock .indexes LineKind.indexes.featureTag line
      rw [← noticed.references] at accounts
      cases closed with
      | true => exact accounts.goesOn noticed.journal
      | false => exact accounts.goesOn (noticed.trans (ReadState.passes_report _ rfl line)).journal
  | other line => exact accounts.goesOn (state.passes_report rfl line).journal

theorem foldl_takeBodyItem (accounts : Accounts lines state.journal state.references (front ++ [table]))
    (loud : policy.reportUnknownSettings = true) {items : List BodyItem}
    (among : ∀ item ∈ items, item.line ∈ lines) :
    Accounts lines (items.foldl (ReadState.takeBodyItem policy) (state, table)).1.journal
      (items.foldl (ReadState.takeBodyItem policy) (state, table)).1.references
      (front ++ [(items.foldl (ReadState.takeBodyItem policy) (state, table)).2]) := by
  induction items generalizing state table with
  | nil => exact accounts
  | cons item items ih =>
      obtain ⟨first, rest⟩ := List.forall_mem_cons.mp among
      exact ih (accounts.takeBodyItem loud first) rest

theorem readBody (accounts : Accounts lines state.journal state.references (front ++ [table]))
    (loud : policy.reportUnknownSettings = true) (line : SourceLine) (header : TableHeader)
    (behind : following ⊆ lines) :
    let progress := (ReadState.readBody policy line header following (state, table)).1
    Accounts lines progress.1.journal progress.1.references (front ++ [progress.2]) := by
  unfold ReadState.readBody
  cases begun : header.bodyLines? following with
  | none => exact accounts
  | some body =>
      have among : ∀ item ∈ (Body.ofLines body).items, item.line ∈ lines := fun item member =>
        behind ((TableHeader.bodyLines?_suffix begun).subset (Body.line_mem member))
      have items := accounts.foldl_takeBodyItem loud among
      dsimp only
      cases (Body.ofLines body).closed with
      | true => exact items
      | false => exact items.goesOn (ReadState.passes_report _ rfl line).journal

theorem readAcceptedTable {header : TableHeader} {rest : List SourceLine}
    (accounts : Accounts lines state.journal state.references state.catalog.tables)
    (loud : policy.reportUnknownSettings = true) (among : line ∈ lines) (behind : following ⊆ lines)
    (read : TableHeader.read? line.text.toList = some header)
    (done : ReadState.readAcceptedTable policy state line header following = .ok (next, rest)) :
    Accounts lines next.journal next.references next.catalog.tables := by
  have body := (accounts.withHeader loud among read state.tablesNumbered).readBody loud line header behind
  obtain ⟨_, _, added⟩ := ReadState.readBody_adds policy line header following
    (state.withHeader policy line header) (header.table state.tablesNumbered)
  rw [ReadState.readAcceptedTable_eq] at done
  generalize ReadState.readBody policy line header following
    (state.withHeader policy line header, header.table state.tablesNumbered) = whole at done added body
  obtain ⟨⟨read, table⟩, left⟩ := whole
  dsimp only at done body
  cases declared : read.catalog.declare table with
  | error refusal =>
      rw [declared] at done
      cases done
  | ok catalog =>
      rw [declared] at done
      cases done
      have sameCatalog : read.catalog = state.catalog := added.catalog
      rwa [Catalog.tables_of_declare declared, sameCatalog]

theorem readTable {rest : List SourceLine}
    (accounts : Accounts lines state.journal state.references state.catalog.tables)
    (loud : policy.reportUnknownSettings = true) (among : line ∈ lines) (behind : following ⊆ lines)
    (done : ReadState.readTable policy state line following = .ok (next, rest)) :
    Accounts lines next.journal next.references next.catalog.tables := by
  unfold ReadState.readTable at done
  cases read : TableHeader.read? line.text.toList with
  | none =>
      rw [read] at done
      cases done
      have skipped := ReadState.passes_skipBlock (state.report (.badTableHeader line.text) line) line following
      exact accounts.passes ((state.passes_report rfl line).trans skipped)
  | some header =>
      rw [read] at done
      dsimp only at done
      cases named : header.nameProblems state.catalog with
      | nil =>
          rw [named] at done
          exact accounts.readAcceptedTable loud among behind read done
      | cons problem problems =>
          have others : ∀ found ∈ problem :: problems, found.1.isUnknownSetting = false := by
            rw [← named]
            exact fun found member => header.isUnknownSetting_of_mem_nameProblems member
          rw [named] at done
          cases done
          exact accounts.passes ((state.passes_reportAll line others).trans
            (ReadState.passes_skipBlock _ line following))

theorem readReference (accounts : Accounts lines state.journal state.references state.catalog.tables)
    (policy : Policy) (among : line ∈ lines) :
    Accounts lines (ReadState.readReference policy state line).journal
      (ReadState.readReference policy state line).references
      (ReadState.readReference policy state line).catalog.tables := by
  rcases ReadState.readReference_cases policy state line with
    ⟨written, source, read, _, taken⟩ | ⟨problem, offset, refusal, reported⟩
  · rw [taken]
    exact accounts.withReference among read source
  · rw [reported]
    exact accounts.passes
      (state.passes_reportAt (Problem.isUnknownSetting_of_error refusal.grave.1) line offset)

theorem readKind {kind : LineKind} {rest : List SourceLine}
    (accounts : Accounts lines state.journal state.references state.catalog.tables)
    (loud : policy.reportUnknownSettings = true) (among : line ∈ lines) (behind : following ⊆ lines)
    (done : ReadState.readKind policy state kind line following = .ok (next, rest)) :
    Accounts lines next.journal next.references next.catalog.tables := by
  cases kind with
  | table => exact accounts.readTable loud among behind done
  | ref =>
      cases done
      exact accounts.readReference policy among
  | enum | project | tableGroup | indexes =>
      cases done
      exact accounts.passes ((state.passes_noticeBlock _ _ line).trans
        (ReadState.passes_skipBlock _ line following))
  | columnLike | note | brace | unknown =>
      cases done
      exact accounts.passes (state.passes_report rfl line)

theorem readLines {left : List SourceLine}
    (accounts : Accounts lines state.journal state.references state.catalog.tables)
    (loud : policy.reportUnknownSettings = true) (interrupts : Interrupts) (within : left ⊆ lines) :
    let read := (ReadState.readLines policy interrupts state left).1
    Accounts lines read.journal read.references read.catalog.tables := by
  fun_induction ReadState.readLines policy interrupts state left with
  | case1 state => exact accounts
  | case2 state line following next rest done ih =>
      obtain ⟨among, behind⟩ := List.cons_subset.mp within
      exact ih (accounts.readKind loud among behind (ReadState.step_eq_ok_iff.mp done).2)
        (List.Subset.trans (ReadState.step_suffix done).subset behind)
  | case3 state line following failure failed => exact accounts

theorem checkInlines {check : TargetCheck}
    (accounts : Accounts lines state.journal state.references state.catalog.tables)
    (done : ReadState.checkInlines check state = .ok next) (fewer : next.references ⊆ state.references) :
    Accounts lines next.journal next.references next.catalog.tables := by
  have goesOn : state.journal.GoesOn next.journal :=
    ReadState.checkInlines_keeps (motive := fun next => state.journal.GoesOn next.journal) done (.refl _)
      fun before step => before.trans (ReadState.goesOn_checkInline step)
  exact (accounts.goesOn goesOn).unmarked (ReadState.map_unmarked_of_checkInlines done) fewer

theorem ofLines (loud : policy.reportUnknownSettings = true) (script : String) :
    let lines := SourceLine.ofScript script
    let read := ReadState.ofLines policy .none lines
    Accounts lines read.journal read.references read.catalog.tables := by
  intro lines
  obtain ⟨read, after, complete, _, checked, kept, whole⟩ := ReadState.ofLines_checked policy script
  have nothing : Accounts lines ({} : ReadState).journal ({} : ReadState).references
      ({} : ReadState).catalog.tables := initial lines
  have accounts := nothing.readLines loud .none (List.Subset.refl lines)
  rw [complete] at accounts
  dsimp only
  rw [whole]
  exact accounts.checkInlines checked kept.kept.subset

end Accounts

/-- Whether warnings of settings that are not known are asked for changes nothing but whether they are there,
whichever way the targets of inline references are looked after. In either reading tables and columns keep the
settings of their lines that are not known, and where it is asked for there is a warning of just the keys that
are kept. Of every action that is not known there is a warning in either. -/
theorem Reading.ofScript_quiet (check : TargetCheck) (script : String) :
    let lines := SourceLine.ofScript script
    let loud := ofScript ⟨check, true⟩ script
    let quiet := ofScript ⟨check, false⟩ script
    quiet = { loud with warnings := loud.warnings.filter (!·.namesUnknownSetting) } ∧
      (∀ table ∈ quiet.tables, table.IsReadFrom lines) ∧
      (∀ key, (∃ warning ∈ loud.warnings, warning.message = (Problem.unknownSetting .table key).message) ↔
        ∃ table ∈ quiet.tables, key ∈ table.properties.map Prod.fst) ∧
      (∀ key, (∃ warning ∈ loud.warnings, warning.message = (Problem.unknownSetting .column key).message) ↔
        ∃ table ∈ quiet.tables, ∃ column ∈ table.columns, key ∈ column.properties.map Prod.fst) ∧
      ∀ reference ∈ quiet.references, reference.inline = false →
        ∃ line ∈ lines, ∃ written, ReferenceLine.read? line.text.toList = some written ∧
          reference.source = written.source ∧ reference.target = written.target ∧
          ∀ setting ∈ written.settingList, ∀ action, setting.AsksFor action → isKnownAction action = false →
            ∃ warning ∈ quiet.warnings, warning.message = (Problem.unknownAction action).message := by
  intro lines loud quiet
  have quietly : quiet = { loud with warnings := loud.warnings.filter (!·.namesUnknownSetting) } :=
    ofInterrupted_quiet ⟨check, true⟩ .none script
  have accounts : Accounts lines _ loud.references loud.tables := Accounts.ofLines rfl script
  refine ⟨quietly, ?_, fun key => ?_, fun key => ?_, ?_⟩
  · rw [quietly]
    exact accounts.readFrom
  · rw [quietly]
    exact (accounts.table key).trans List.mem_flatMap
  · rw [quietly]
    refine (accounts.column key).trans (List.mem_flatMap.trans ?_)
    simp only [Table.columnKeys, List.mem_flatMap, Column.keys]
  · rw [quietly]
    intro reference member standalone
    obtain ⟨line, among, written, read, source, target, warns⟩ := accounts.action reference member standalone
    refine ⟨line, among, written, read, source, target, fun setting inside action asks unknown => ?_⟩
    obtain ⟨warning, warned, message⟩ := warns setting inside action asks unknown
    have other : warning.namesUnknownSetting = false := Problem.namesUnknownSetting_eq message
    exact ⟨warning, List.mem_filter.mpr ⟨warned, by rw [other]; rfl⟩, message⟩

/-- A table and a column with a setting that is not known, and a reference with one and with an action that is
not known. -/
theorem Reading.ofScript_quiet_everySetting :
    let script := "Table a [color: red] \x7b\nid integer [hue: blue]\n\x7d\n" ++
      "Ref: a.id > a.id [tint: green, delete: explode]"
    let loud := ofScript ⟨.fail, true⟩ script
    let quiet := ofScript ⟨.fail, false⟩ script
    quiet = { loud with warnings := loud.warnings.filter (!·.namesUnknownSetting) } ∧
      loud.warnings.map Diagnostic.message =
        ["Unknown table setting: color", "Unknown column setting: hue", "Unknown reference setting: tint",
          "Unknown referential action: explode"] ∧
      quiet.warnings.map Diagnostic.message = ["Unknown referential action: explode"] ∧
      (∃ table ∈ quiet.tables, "color" ∈ table.properties.map Prod.fst) ∧
      ∃ table ∈ quiet.tables, ∃ column ∈ table.columns, "hue" ∈ column.properties.map Prod.fst := by
  intro script loud quiet
  obtain ⟨quietly, _, tableKeys, columnKeys, _⟩ := ofScript_quiet .fail script
  have warned : ∀ problem ∈ [Problem.unknownSetting .table "color", .unknownSetting .column "hue"],
      ∃ warning ∈ loud.warnings, warning.message = problem.message := by
    decide +kernel
  refine ⟨quietly, by decide +kernel, by decide +kernel, (tableKeys "color").mp ?_, (columnKeys "hue").mp ?_⟩
  · exact warned _ List.mem_cons_self
  · exact warned _ (by simp)

end TableScript
