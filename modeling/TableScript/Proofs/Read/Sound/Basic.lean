import Mathlib.Data.List.Nodup
import Std.Data.String.ToNat
import TableScript.Proofs.Model.WellFormed
import TableScript.Proofs.Read.Column

/-! What holds of everything read so far, whatever the script says: the tables are well-formed, every
identifier is the label with the number that was next, the inline references are exactly those whose
targets are still to be looked after, and every reference starts where a column was declared. It holds
of the tables of the catalog between two tables, and of these and the table in progress in between. -/

namespace TableScript

/-- The identifiers given out when the numbers below the count are used up. -/
def numbered (label : String) (count : Nat) : List String :=
  (List.range count).map fun number => label ++ toString number

/-- Different numbers give different identifiers. -/
theorem nodup_map_label (label : String) {numbers : List Nat} (distinct : numbers.Nodup) :
    (numbers.map fun number => label ++ toString number).Nodup := by
  refine List.Nodup.map ?_ distinct
  intro first second same
  exact Nat.repr_inj.mp ((String.append_right_inj label).mp same)

theorem nodup_numbered (label : String) (count : Nat) : (numbered label count).Nodup :=
  nodup_map_label label List.nodup_range

theorem numbered_add (label : String) (count more : Nat) :
    numbered label (count + more) =
      numbered label count ++ (List.range' count more).map fun number => label ++ toString number := by
  have split : List.range (count + more) = List.range count ++ List.range' count more := by
    simpa [List.range_eq_range'] using (List.range'_append_1 (s := 0) (m := count) (n := more)).symm
  rw [numbered, split, List.map_append]
  rfl

theorem numbered_succ (label : String) (count : Nat) :
    numbered label (count + 1) = numbered label count ++ [label ++ toString count] :=
  numbered_add label count 1

theorem Table.map_id_inlineUses (table : Table) (columnId columnName : String) (line : SourceLine)
    (settings : List Setting) (number : Nat) :
    (table.inlineUses columnId columnName line settings number).map (·.reference.id) =
      (List.range' number (table.inlineUses columnId columnName line settings number).length).map
        fun place => "ref_" ++ toString place := by
  have places := List.zipIdx_map_snd number (settings.filterMap Setting.inline?)
  simp only [inlineUses, List.map_map, List.length_map, List.length_zipIdx, ← places]
  rfl

theorem Table.inline_and_source_of_mem_inlineUses {table : Table} {columnId columnName : String}
    {line : SourceLine} {settings : List Setting} {number : Nat} {use : InlineUse}
    (member : use ∈ table.inlineUses columnId columnName line settings number) :
    use.reference.inline = true ∧ use.reference.source = ⟨table.schema, table.name, columnName⟩ := by
  obtain ⟨⟨inline, place⟩, _, rfl⟩ := List.mem_map.mp member
  exact ⟨rfl, rfl⟩

theorem Table.filter_inlineUses (table : Table) (columnId columnName : String) (line : SourceLine)
    (settings : List Setting) (number : Nat) :
    ((table.inlineUses columnId columnName line settings number).map InlineUse.reference).filter
        (·.inline) =
      (table.inlineUses columnId columnName line settings number).map InlineUse.reference := by
  rw [List.filter_eq_self]
  intro reference member
  obtain ⟨use, among, rfl⟩ := List.mem_map.mp member
  exact (Table.inline_and_source_of_mem_inlineUses among).1

theorem Table.wellFormed_concat {front : List Table} {table other : Table}
    (each : ∀ member ∈ front ++ [table], member.WellFormed) (form : other.WellFormed) :
    ∀ member ∈ front ++ [other], member.WellFormed := by
  intro member among
  rcases List.mem_append.mp among with before | last
  · exact each member (List.mem_append_left _ before)
  · rw [List.mem_singleton.mp last]
    exact form

theorem Table.WellFormed.withColumn {table : Table} {column : Column} (form : table.WellFormed)
    (columnForm : column.WellFormed) :
    { table with columns := table.columns ++ [column] }.WellFormed := by
  refine ⟨form.named, form.qualified, fun member inside => ?_⟩
  rcases List.mem_append.mp inside with old | new
  · exact form.columns member old
  · rw [List.mem_singleton.mp new]
    exact columnForm

theorem ColumnLine.wellFormed_column {text : List Char} {declared : ColumnLine}
    (read : ColumnLine.read? text = some declared) (accepted : declared.isAccepted = true)
    (oneLine : '\n' ∉ text) (number : Nat) : (declared.column number).WellFormed := by
  obtain ⟨written, blanks, behindType, rfl, form, typed⟩ := ColumnLine.exists_eq_append_of_read? read
  obtain ⟨_, name, type, quoted⟩ := declared.column_kept number
  simp only [List.mem_append, not_or] at oneLine
  obtain ⟨⟨⟨nameOneLine, _⟩, typeOneLine⟩, _⟩ := oneLine
  refine ⟨?_, ?_, ?_, ?_⟩
  · rwa [type, String.toList_ofList]
  · rwa [type, String.toList_ofList]
  · intro bare
    rw [quoted] at bare
    rw [ColumnName.Written, if_neg (by simp [bare])] at form
    have identifier : Lexeme.isIdentifier declared.name.text = true := by
      simp only [isAccepted, bare, Bool.false_or, Bool.and_eq_true] at accepted
      exact accepted.2
    rw [IsPlainName, name, String.toList_ofList, ← form]
    exact ⟨by rwa [form], nameOneLine⟩
  · intro inQuotes
    rw [quoted] at inQuotes
    rw [ColumnName.Written, if_pos inQuotes] at form
    obtain ⟨mark, isMark, absent, nonempty, rfl⟩ := form
    rw [name, String.toList_ofList]
    refine ⟨fun empty => nonempty ?_, fun inside => nameOneLine (by simp [inside]), ?_⟩
    · simpa using congrArg String.toList empty
    · intro found
      obtain ⟨single, double⟩ := found
      rcases isMark with rfl | rfl
      · exact absent double
      · exact absent single

namespace ReadState

/-- Everything read refers to what the tables have. -/
structure Grounded (tables : List Table) (state : ReadState) : Prop where
  wellFormed : ∀ table ∈ tables, table.WellFormed
  tableIds : tables.map Table.id = numbered "table_" state.tablesNumbered
  columnIds : (tables.flatMap Table.columns).map Column.id = numbered "col_" state.columnsNumbered
  inline : ∀ reference ∈ state.references, reference.inline = true →
    reference.source.IsExact tables
  standalone : ∀ reference ∈ state.references, reference.inline = false →
    reference.source.IsDeclared tables ∧ reference.target.IsDeclared tables
  calm : ∀ diagnostic ∈ state.journal, diagnostic.kind ≠ .internal

/-- No reference was dropped so far. -/
structure Sound (tables : List Table) (state : ReadState) : Prop extends Grounded tables state where
  referenceIds : state.references.map Reference.id = numbered "ref_" state.referencesNumbered
  uses : state.inlineUses.map InlineUse.reference = state.references.filter (·.inline)

namespace Sound

variable {state : ReadState} {tables front : List Table} {table other : Table} {policy : Policy}
  {line : SourceLine} {declared : ColumnLine}

theorem initial : Sound [] {} := by
  refine ⟨⟨?_, rfl, rfl, ?_, ?_, ?_⟩, rfl, rfl⟩ <;> simp

theorem adding (sound : state.Sound tables) (found : Journal)
    (calm : ∀ diagnostic ∈ found, diagnostic.kind ≠ .internal) :
    (state.adding [] found).Sound tables := by
  rw [ReadState.adding, List.map_nil, List.append_nil, List.append_nil]
  refine { sound with calm := fun diagnostic member => ?_ }
  rcases List.mem_append.mp member with before | new
  · exact sound.calm diagnostic before
  · exact calm diagnostic new

theorem report (sound : state.Sound tables) {problem : Problem} (calm : problem.kind ≠ .internal) :
    (state.report problem line).Sound tables := by
  rw [report_eq_adding]
  exact sound.adding _ (by simpa using calm)

theorem noticeBlock (sound : state.Sound tables) (block : SkippedBlock) (tag : String)
    (line : SourceLine) :
    (state.noticeBlock block tag line).Sound tables := by
  have noted : (state.addFeature tag).Sound tables := by
    unfold addFeature
    split
    · exact sound
    · exact { sound with }
  exact noted.report (by simp [Problem.kind])

/-- The last table may change in everything but its identifier, its key and its columns. -/
theorem replace (sound : state.Sound (front ++ [table])) (id : other.id = table.id)
    (key : other.key = table.key) (columns : other.columns = table.columns) :
    state.Sound (front ++ [other]) := by
  have covered : IsCovered (front ++ [table]) (front ++ [other]) :=
    isCovered_concat key (by rw [columns]; exact List.Subset.refl _)
  obtain ⟨schema, name⟩ := TableKey.mk.inj key
  refine { sound with
    wellFormed := ?_
    tableIds := by simpa [id] using sound.tableIds
    columnIds := by simpa [columns] using sound.columnIds
    inline := fun reference member inline => (sound.inline reference member inline).mono covered
    standalone := ?_ }
  · have form := sound.wellFormed table (by simp)
    exact Table.wellFormed_concat sound.wellFormed ⟨by rw [name]; exact form.named,
      by rw [schema]; exact form.qualified, by rw [columns]; exact form.columns⟩
  · intro reference member standalone
    obtain ⟨source, target⟩ := sound.standalone reference member standalone
    exact ⟨source.mono covered, target.mono covered⟩

/-- A column goes to the last table, with its inline references. -/
theorem withColumn (sound : state.Sound (front ++ [table]))
    (read : ColumnLine.read? line.text.toList = some declared)
    (accepted : declared.isAccepted = true) (oneLine : '\n' ∉ line.text.toList) :
    (state.withColumn policy table line declared).Sound
      (front ++ [{ table with columns := table.columns ++ [declared.column state.columnsNumbered] }]) := by
  obtain ⟨columnId, columnName, _, _⟩ := declared.column_kept state.columnsNumbered
  have covered : IsCovered (front ++ [table])
      (front ++ [{ table with columns := table.columns ++ [declared.column state.columnsNumbered] }]) :=
    isCovered_concat rfl (by simp)
  have uses : ∀ use ∈ declared.inlineUses table line state.columnsNumbered state.referencesNumbered,
      use.reference.inline = true ∧ use.reference.source =
        ⟨table.schema, table.name, String.ofList declared.name.text⟩ :=
    fun use member => Table.inline_and_source_of_mem_inlineUses member
  refine ⟨⟨?_, ?_, ?_, ?_, ?_, ?_⟩, ?_, ?_⟩
  · have form := sound.wellFormed table (by simp)
    have columnForm := ColumnLine.wellFormed_column read accepted oneLine state.columnsNumbered
    exact Table.wellFormed_concat sound.wellFormed (form.withColumn columnForm)
  · simpa [ReadState.withColumn] using sound.tableIds
  · have ids := sound.columnIds
    simp only [List.flatMap_append, List.flatMap_singleton, List.map_append] at ids ⊢
    rw [← List.append_assoc, ids, List.map_singleton, columnId]
    exact (numbered_succ "col_" state.columnsNumbered).symm
  · intro reference member inline
    simp only [ReadState.withColumn, references_adding] at member
    rcases List.mem_append.mp member with old | new
    · exact (sound.inline reference old inline).mono covered
    · obtain ⟨use, among, rfl⟩ := List.mem_map.mp new
      rw [(uses use among).2]
      refine ⟨{ table with columns := table.columns ++ [declared.column state.columnsNumbered] },
        by simp, rfl, ?_⟩
      simp [Table.hasColumn_iff, columnName]
  · intro reference member standalone
    simp only [ReadState.withColumn, references_adding] at member
    rcases List.mem_append.mp member with old | new
    · obtain ⟨source, target⟩ := sound.standalone reference old standalone
      exact ⟨source.mono covered, target.mono covered⟩
    · obtain ⟨use, among, rfl⟩ := List.mem_map.mp new
      rw [(uses use among).1] at standalone
      cases standalone
  · intro diagnostic member
    simp only [ReadState.withColumn, journal_adding] at member
    rcases List.mem_append.mp member with old | new
    · exact sound.calm diagnostic old
    · exact ColumnLine.kind_of_mem_diagnostics new
  · have ids := Table.map_id_inlineUses table ("col_" ++ toString state.columnsNumbered)
      (String.ofList declared.name.text) line declared.settingList state.referencesNumbered
    simp only [ReadState.withColumn, references_adding, referencesNumbered_adding, List.map_append,
      sound.referenceIds, numbered_add, List.map_map]
    exact congrArg (_ ++ ·) ids
  · have allInline := Table.filter_inlineUses table ("col_" ++ toString state.columnsNumbered)
      (String.ofList declared.name.text) line declared.settingList state.referencesNumbered
    simp only [ReadState.withColumn, references_adding, inlineUses_adding, List.map_append,
      List.filter_append, sound.uses]
    exact congrArg (_ ++ ·) allInline.symm

end Sound

end ReadState

end TableScript
