import TableScript.Proofs.Read.Reference
import TableScript.Proofs.Read.Sound.Basic
import TableScript.Proofs.Read.Table
import TableScript.Read.Script

/-! What one step of the top level can do. It leaves tables and references alone, or it declares a table
with the inline references of its columns, or it adds one reference between columns declared before and
marks the column where it starts. What all three keep holds of every state that is reached. -/

namespace TableScript

/-- The column gave the inline reference by one of its settings and is marked for it. -/
structure InlineUse.IsDeclaredBy (use : InlineUse) (table : Table) (column : Column) : Prop where
  inline : use.reference.inline = true
  source : use.reference.source = ⟨table.schema, table.name, column.name⟩
  id : use.columnId = column.id
  marked : column.foreignKey = true

theorem InlineUse.IsDeclaredBy.congr {use : InlineUse} {table other : Table} {column : Column}
    (declared : use.IsDeclaredBy table column) (key : other.key = table.key) :
    use.IsDeclaredBy other column := by
  obtain ⟨schema, name⟩ := TableKey.mk.inj key
  exact { declared with source := by rw [declared.source, schema, name] }

theorem Column.foreignKey_afterSetting (column : Column) (setting : Setting) :
    (column.afterSetting setting).foreignKey = (setting.inline?.isSome || column.foreignKey) := by
  by_cases reference : setting.name = "ref"
  · simp [afterSetting, reference]
  · have noInline : setting.inline? = none := by simp [Setting.inline?, reference]
    rw [noInline, Option.isSome_none, Bool.false_or]
    unfold afterSetting
    dsimp only
    repeat' split
    all_goals rfl

/-- Settings never clear the mark of a column; those that are good references set it. -/
theorem Column.foreignKey_foldl_afterSetting (column : Column) (settings : List Setting) :
    (settings.foldl afterSetting column).foreignKey =
      (settings.any (·.inline?.isSome) || column.foreignKey) := by
  induction settings generalizing column with
  | nil => rfl
  | cons setting settings ih =>
      rw [List.foldl_cons, ih, foreignKey_afterSetting, List.any_cons, ← Bool.or_assoc,
        Bool.or_comm (settings.any _)]

namespace ColumnLine

variable {declared : ColumnLine} {table : Table} {line : SourceLine} {column reference : Nat}

theorem foreignKey_column_iff :
    (declared.column column).foreignKey = true ↔
      declared.inlineUses table line column reference ≠ [] := by
  rw [ColumnLine.column, Column.foreignKey_foldl_afterSetting, bareColumn, Bool.or_false, inlineUses,
    Table.inlineUses, ne_eq, List.map_eq_nil_iff, List.zipIdx_eq_nil_iff, List.filterMap_eq_nil_iff]
  simp [Option.isSome_iff_ne_none]

theorem isDeclaredBy_of_mem {use : InlineUse}
    (member : use ∈ declared.inlineUses table line column reference) :
    use.IsDeclaredBy table (declared.column column) := by
  obtain ⟨columnId, columnName, _, _⟩ := declared.column_kept column
  have given := Table.inline_and_source_of_mem_inlineUses member
  refine ⟨given.1, by rw [given.2, columnName], ?_,
    foreignKey_column_iff.mpr (List.ne_nil_of_mem member)⟩
  obtain ⟨_, _, rfl⟩ := List.mem_map.mp member
  exact columnId.symm

end ColumnLine

namespace ReadState

/-- What the lines of a table add to it and to what was read: columns, and the inline references that
these declare. -/
structure Adds (before after : ReadState × Table) (added : List Column) (uses : List InlineUse) :
    Prop where
  catalog : after.1.catalog = before.1.catalog
  references : after.1.references = before.1.references ++ uses.map InlineUse.reference
  inlineUses : after.1.inlineUses = before.1.inlineUses ++ uses
  key : after.2.key = before.2.key
  columns : after.2.columns = before.2.columns ++ added
  declared : ∀ use ∈ uses, ∃ column ∈ added, use.IsDeclaredBy before.2 column
  marked : ∀ column ∈ added, column.foreignKey = true →
    ∃ use ∈ uses, use.IsDeclaredBy before.2 column

namespace Adds

variable {before middle after : ReadState × Table} {columns more : List Column}
  {uses later : List InlineUse}

theorem nothing (catalog : after.1.catalog = before.1.catalog)
    (references : after.1.references = before.1.references)
    (inlineUses : after.1.inlineUses = before.1.inlineUses) (key : after.2.key = before.2.key)
    (columns : after.2.columns = before.2.columns) : Adds before after [] [] := by
  refine ⟨catalog, ?_, ?_, key, ?_, by simp, by simp⟩
  · rw [references, List.map_nil, List.append_nil]
  · rw [inlineUses, List.append_nil]
  · rw [columns, List.append_nil]

theorem trans (first : Adds before middle columns uses) (second : Adds middle after more later) :
    Adds before after (columns ++ more) (uses ++ later) where
  catalog := second.catalog.trans first.catalog
  references := by rw [second.references, first.references, List.map_append, List.append_assoc]
  inlineUses := by rw [second.inlineUses, first.inlineUses, List.append_assoc]
  key := second.key.trans first.key
  columns := by rw [second.columns, first.columns, List.append_assoc]
  declared := by
    intro use member
    rcases List.mem_append.mp member with early | late
    · obtain ⟨column, among, declared⟩ := first.declared use early
      exact ⟨column, List.mem_append_left more among, declared⟩
    · obtain ⟨column, among, declared⟩ := second.declared use late
      exact ⟨column, List.mem_append_right columns among, declared.congr first.key.symm⟩
  marked := by
    intro column member marked
    rcases List.mem_append.mp member with early | late
    · obtain ⟨use, among, declared⟩ := first.marked column early marked
      exact ⟨use, List.mem_append_left later among, declared⟩
    · obtain ⟨use, among, declared⟩ := second.marked column late marked
      exact ⟨use, List.mem_append_right uses among, declared.congr first.key.symm⟩

end Adds

variable {policy : Policy} {interrupts : Interrupts} {state after : ReadState} {table : Table}
  {line : SourceLine} {header : TableHeader} {following rest : List SourceLine}

theorem noticeBlock_kept (state : ReadState) (block : SkippedBlock) (tag : String)
    (line : SourceLine) :
    (state.noticeBlock block tag line).catalog = state.catalog ∧
      (state.noticeBlock block tag line).references = state.references ∧
      (state.noticeBlock block tag line).inlineUses = state.inlineUses := by
  have noted : (state.addFeature tag).catalog = state.catalog ∧
      (state.addFeature tag).references = state.references ∧
      (state.addFeature tag).inlineUses = state.inlineUses := by
    unfold addFeature
    split <;> exact ⟨rfl, rfl, rfl⟩
  exact noted

/-- What an item of a body does. It gives the table a column or a note, or it leaves the table alone. -/
inductive ItemEffect (policy : Policy) (state : ReadState) (table : Table) :
    ReadState × Table → Prop where
  | nothing {after : ReadState} (catalog : after.catalog = state.catalog)
      (references : after.references = state.references)
      (inlineUses : after.inlineUses = state.inlineUses) :
      ItemEffect policy state table (after, table)
  | note (text : String) : ItemEffect policy state table (state, { table with note := some text })
  | column {line : SourceLine} {declared : ColumnLine}
      (read : ColumnLine.read? line.text.toList = some declared)
      (accepted : declared.isAccepted = true) :
      ItemEffect policy state table (state.withColumn policy table line declared,
        { table with columns := table.columns ++ [declared.column state.columnsNumbered] })

theorem takeBodyItem_effect (policy : Policy) (state : ReadState) (table : Table) (item : BodyItem) :
    ItemEffect policy state table (takeBodyItem policy (state, table) item) := by
  cases item with
  | column line =>
      rcases readColumn_cases policy state table line with
        ⟨declared, read, accepted, taken⟩ | ⟨problem, _, reported⟩
      · simp only [takeBodyItem, taken]
        exact .column read accepted
      · simp only [takeBodyItem, reported]
        exact .nothing rfl rfl rfl
  | note line =>
      simp only [takeBodyItem, readNote]
      cases noteText? line.text.toList with
      | none => exact .nothing rfl rfl rfl
      | some text =>
          cases text with
          | nil => exact .nothing rfl rfl rfl
          | cons c text => exact .note _
  | indexes line closed =>
      obtain ⟨catalog, references, inlineUses⟩ :=
        state.noticeBlock_kept .indexes LineKind.indexes.featureTag line
      cases closed <;> exact .nothing catalog references inlineUses
  | other line => exact .nothing rfl rfl rfl

theorem takeBodyItem_adds (policy : Policy) (state : ReadState) (table : Table) (item : BodyItem) :
    ∃ columns uses, Adds (state, table) (takeBodyItem policy (state, table) item) columns uses := by
  have effect := takeBodyItem_effect policy state table item
  generalize takeBodyItem policy (state, table) item = taken at effect ⊢
  cases effect with
  | nothing catalog references inlineUses =>
      exact ⟨[], [], .nothing catalog references inlineUses rfl rfl⟩
  | note text => exact ⟨[], [], .nothing rfl rfl rfl rfl rfl⟩
  | @column line declared read accepted =>
      refine ⟨[declared.column state.columnsNumbered], _, rfl, rfl, rfl, rfl, rfl, ?_, ?_⟩
      · exact fun use member =>
          ⟨_, List.mem_singleton_self _, ColumnLine.isDeclaredBy_of_mem member⟩
      · intro column member marked
        rw [List.mem_singleton.mp member] at marked ⊢
        obtain ⟨use, among⟩ := List.exists_mem_of_ne_nil _
          (ColumnLine.foreignKey_column_iff.mp marked)
        exact ⟨use, among, ColumnLine.isDeclaredBy_of_mem among⟩

theorem foldl_takeBodyItem_adds (policy : Policy) (state : ReadState) (table : Table)
    (items : List BodyItem) :
    ∃ columns uses, Adds (state, table) (items.foldl (takeBodyItem policy) (state, table))
      columns uses := by
  induction items generalizing state table with
  | nil => exact ⟨[], [], .nothing rfl rfl rfl rfl rfl⟩
  | cons item items ih =>
      obtain ⟨columns, uses, first⟩ := takeBodyItem_adds policy state table item
      obtain ⟨more, later, second⟩ := ih (takeBodyItem policy (state, table) item).1
        (takeBodyItem policy (state, table) item).2
      exact ⟨columns ++ more, uses ++ later, first.trans second⟩

theorem readBody_adds (policy : Policy) (line : SourceLine) (header : TableHeader)
    (following : List SourceLine) (state : ReadState) (table : Table) :
    ∃ columns uses, Adds (state, table) (readBody policy line header following (state, table)).1
      columns uses := by
  unfold readBody
  cases header.bodyLines? following with
  | none => exact ⟨[], [], .nothing rfl rfl rfl rfl rfl⟩
  | some lines =>
      obtain ⟨columns, uses, items⟩ := foldl_takeBodyItem_adds policy state table
        (Body.ofLines lines).items
      refine ⟨columns, uses, ?_⟩
      dsimp only
      cases (Body.ofLines lines).closed with
      | true => exact items
      | false => exact { items with }

/-- What a step leaves of a state. -/
inductive Advances (before after : ReadState) : Prop where
  | nothing (catalog : after.catalog = before.catalog)
      (references : after.references = before.references)
      (inlineUses : after.inlineUses = before.inlineUses)
  | table (table : Table) (uses : List InlineUse)
      (tables : after.catalog.tables = before.catalog.tables ++ [table])
      (references : after.references = before.references ++ uses.map InlineUse.reference)
      (inlineUses : after.inlineUses = before.inlineUses ++ uses)
      (declared : ∀ use ∈ uses, ∃ column ∈ table.columns, use.IsDeclaredBy table column)
      (marked : ∀ column ∈ table.columns, column.foreignKey = true →
        ∃ use ∈ uses, use.IsDeclaredBy table column)
  | reference (reference : Reference) (source target : Table)
      (standalone : reference.inline = false)
      (sourceFound :
        before.catalog.find? reference.source.table reference.source.schema = some source)
      (sourceColumn : source.hasColumn reference.source.column = true)
      (targetFound :
        before.catalog.find? reference.target.table reference.target.schema = some target)
      (targetColumn : target.hasColumn reference.target.column = true)
      (catalog : after.catalog =
        before.catalog.markForeignKey source.key reference.source.column)
      (references : after.references = before.references ++ [reference])
      (inlineUses : after.inlineUses = before.inlineUses)

/-- What reading what a line begins does. It leaves tables and references alone, or it declares a table as
its header and its body say, or it adds the reference of the line. -/
inductive Effect (policy : Policy) (state : ReadState) (line : SourceLine)
    (following : List SourceLine) : ReadState → Prop where
  | nothing {after : ReadState} (catalog : after.catalog = state.catalog)
      (references : after.references = state.references)
      (inlineUses : after.inlineUses = state.inlineUses) : Effect policy state line following after
  | table {after read : ReadState} (header : TableHeader) (table : Table)
      (body : (readBody policy line header following
        (state.withHeader policy line header, header.table state.tablesNumbered)).1 = (read, table))
      (tables : after.catalog.tables = state.catalog.tables ++ [table])
      (references : after.references = read.references)
      (inlineUses : after.inlineUses = read.inlineUses) : Effect policy state line following after
  | reference {written : ReferenceLine} {source : Table}
      (read : ReferenceLine.read? line.text.toList = some written)
      (resolved : written.resolve state.catalog = .ok source) :
      Effect policy state line following (state.withReference policy line written source)

theorem skipBlock_kept (state : ReadState) (header : SourceLine) (following : List SourceLine) :
    (state.skipBlock header following).1.catalog = state.catalog ∧
      (state.skipBlock header following).1.references = state.references ∧
      (state.skipBlock header following).1.inlineUses = state.inlineUses := by
  unfold skipBlock
  dsimp only
  split <;> exact ⟨rfl, rfl, rfl⟩

theorem reportAll_kept (state : ReadState) (line : SourceLine) (problems : List (Problem × Nat)) :
    (state.reportAll line problems).catalog = state.catalog ∧
      (state.reportAll line problems).references = state.references ∧
      (state.reportAll line problems).inlineUses = state.inlineUses := by
  induction problems generalizing state with
  | nil => exact ⟨rfl, rfl, rfl⟩
  | cons found problems ih => exact ih (state.reportAt found.1 line found.2)

theorem readAcceptedTable_effect
    (done : readAcceptedTable policy state line header following = .ok (after, rest)) :
    Effect policy state line following after := by
  obtain ⟨_, _, added⟩ := readBody_adds policy line header following
    (state.withHeader policy line header) (header.table state.tablesNumbered)
  rw [readAcceptedTable_eq] at done
  generalize whole : readBody policy line header following
    (state.withHeader policy line header, header.table state.tablesNumbered) = body at done added
  obtain ⟨⟨read, table⟩, behind⟩ := body
  dsimp only at done
  cases declared : read.catalog.declare table with
  | error refusal =>
      rw [declared] at done
      cases done
  | ok catalog =>
      rw [declared] at done
      cases done
      have tables := Catalog.tables_of_declare declared
      have sameCatalog : read.catalog = state.catalog := added.catalog
      rw [sameCatalog] at tables
      exact .table header table (congrArg Prod.fst whole) tables rfl rfl

theorem readTable_effect
    (done : readTable policy state line following = .ok (after, rest)) :
    Effect policy state line following after := by
  unfold readTable at done
  cases read : TableHeader.read? line.text.toList with
  | none =>
      rw [read] at done
      cases done
      obtain ⟨catalog, references, inlineUses⟩ :=
        (state.report (.badTableHeader line.text) line).skipBlock_kept line following
      exact .nothing catalog references inlineUses
  | some header =>
      rw [read] at done
      dsimp only at done
      cases allowed : header.nameProblems state.catalog with
      | nil =>
          rw [allowed] at done
          exact readAcceptedTable_effect done
      | cons problem problems =>
          rw [allowed] at done
          cases done
          obtain ⟨catalog, references, inlineUses⟩ := state.reportAll_kept line (problem :: problems)
          obtain ⟨sameCatalog, sameReferences, sameUses⟩ :=
            (state.reportAll line (problem :: problems)).skipBlock_kept line following
          exact .nothing (sameCatalog.trans catalog) (sameReferences.trans references)
            (sameUses.trans inlineUses)

theorem readReference_effect (policy : Policy) (state : ReadState) (line : SourceLine)
    (following : List SourceLine) :
    Effect policy state line following (readReference policy state line) := by
  rcases readReference_cases policy state line with
    ⟨written, source, read, resolved, taken⟩ | ⟨problem, offset, _, reported⟩
  · rw [taken]
    exact .reference read resolved
  · rw [reported]
    exact .nothing rfl rfl rfl

theorem readKind_effect {kind : LineKind}
    (done : readKind policy state kind line following = .ok (after, rest)) :
    Effect policy state line following after := by
  cases kind with
  | table => exact readTable_effect done
  | ref =>
      cases done
      exact readReference_effect policy state line following
  | enum | project | tableGroup | indexes =>
      cases done
      obtain ⟨catalog, references, inlineUses⟩ := state.noticeBlock_kept _ _ line
      obtain ⟨sameCatalog, sameReferences, sameUses⟩ :=
        (state.noticeBlock _ _ line).skipBlock_kept line following
      exact .nothing (sameCatalog.trans catalog) (sameReferences.trans references)
        (sameUses.trans inlineUses)
  | columnLike | note | brace | unknown =>
      cases done
      exact .nothing rfl rfl rfl

/-- A table that was declared has the columns of its body, and the references that were added are those
that these give. -/
theorem Effect.advances (effect : Effect policy state line following after) :
    Advances state after := by
  cases effect with
  | nothing catalog references inlineUses => exact .nothing catalog references inlineUses
  | @table _ read header table body tables references inlineUses =>
      obtain ⟨_, _, noColumns⟩ := header.table_kept state.tablesNumbered
      obtain ⟨columns, uses, added⟩ := readBody_adds policy line header following
        (state.withHeader policy line header) (header.table state.tablesNumbered)
      rw [body] at added
      have sameColumns : table.columns = columns := by
        have all := added.columns
        dsimp only at all
        rwa [noColumns, List.nil_append] at all
      have sameReferences : read.references = state.references ++ uses.map InlineUse.reference := by
        have all := added.references
        simpa [withHeader] using all
      have sameUses : read.inlineUses = state.inlineUses ++ uses := by
        have all := added.inlineUses
        simpa [withHeader] using all
      refine .table table uses tables (references.trans sameReferences)
        (inlineUses.trans sameUses) ?_ ?_
      · intro use member
        obtain ⟨column, among, declaredBy⟩ := added.declared use member
        exact ⟨column, by rwa [sameColumns], declaredBy.congr added.key⟩
      · intro column member marked
        rw [sameColumns] at member
        obtain ⟨use, among, declaredBy⟩ := added.marked column member marked
        exact ⟨use, among, declaredBy.congr added.key⟩
  | @reference written source read resolved =>
      obtain ⟨_, sourceKept, targetKept, _, standalone⟩ :=
        written.reference_kept state.referencesNumbered
      obtain ⟨sourceFound, sourceColumn, target, targetFound, targetColumn⟩ :=
        ReferenceLine.resolve_eq_ok_iff.mp resolved
      refine .reference (written.reference state.referencesNumbered) source target standalone
        ?_ ?_ ?_ ?_ ?_ rfl (by simp [withReference])
      · rwa [sourceKept]
      · rwa [sourceKept]
      · rwa [targetKept]
      · rwa [targetKept]
      · rw [sourceKept]
        rfl

/-- A step that is done was not held up and read what its line begins. -/
theorem step_eq_ok_iff {result : ReadState × List SourceLine} :
    step policy interrupts state line following = .ok result ↔
      interrupts (LineKind.classify false line.text.toList) = none ∧
        readKind policy state (LineKind.classify false line.text.toList) line following =
          .ok result := by
  unfold step
  dsimp only
  cases interrupts (LineKind.classify false line.text.toList) with
  | some reason => simp
  | none =>
      cases readKind policy state (LineKind.classify false line.text.toList) line following <;> simp

theorem readLines_cons (done : step policy interrupts state line following = .ok (after, rest)) :
    readLines policy interrupts state (line :: following) = readLines policy interrupts after rest := by
  rw [readLines]
  split
  · rename_i again
    rw [done] at again
    cases again
    rfl
  · rename_i again
    rw [done] at again
    cases again

theorem readLines_cons_of_failure {failure : Failure}
    (failed : step policy interrupts state line following = .error failure) :
    readLines policy interrupts state (line :: following) = (state, some (line, failure)) := by
  rw [readLines]
  split
  · rename_i again
    rw [failed] at again
    cases again
  · rename_i again
    rw [failed] at again
    cases again
    rfl

/-- What can be read, step by step. -/
inductive Reachable : ReadState → Prop where
  | initial : Reachable {}
  | advance {before after : ReadState} (reachable : Reachable before)
      (advances : Advances before after) : Reachable after

/-- Reading lines leads from state to state by steps, whether or not one of them fails. -/
theorem Reachable.readLines (reachable : state.Reachable) (lines : List SourceLine) :
    (readLines policy interrupts state lines).1.Reachable := by
  fun_induction ReadState.readLines policy interrupts state lines with
  | case1 state => exact reachable
  | case2 state line following after rest done ih =>
      exact ih (reachable.advance (readKind_effect (step_eq_ok_iff.mp done).2).advances)
  | case3 state line following failure done => exact reachable

end ReadState

end TableScript
