import TableScript.Proofs.Model.Binding
import TableScript.Proofs.Read.Legible.Basic

namespace TableScript

theorem Entries.mem_keys_put {α : Type} {key other : String} {value : α}
    {entries : List (String × α)} :
    other ∈ (put key value entries).map Prod.fst ↔ other ∈ entries.map Prod.fst ∨ other = key := by
  rw [keys_put]
  split
  · rename_i known
    exact ⟨.inl, fun either => either.elim id fun same => same ▸ known⟩
  · rw [List.mem_append, List.mem_singleton]

/-- The properties with a setting kept among them. -/
def Setting.keep (entries : Properties) (setting : Setting) : Properties :=
  Entries.put setting.key setting.property entries

/-- What is kept of settings of which those with certain names have a meaning: all others, each under its key,
a later one in place of an earlier one. -/
def Setting.kept (meant : List String) (settings : List Setting) : Properties :=
  (settings.filter (·.name ∉ meant)).foldl keep []

section

variable {key : String} {settings : List Setting} {lines : List SourceLine} {table : Table}

theorem Setting.mem_keys_foldl_keep (entries : Properties) :
    key ∈ (settings.foldl keep entries).map Prod.fst ↔
      key ∈ entries.map Prod.fst ∨ ∃ setting ∈ settings, key = setting.key := by
  induction settings generalizing entries with
  | nil => simp
  | cons setting settings ih =>
      rw [List.foldl_cons, ih, keep, Entries.mem_keys_put, or_assoc]
      simp only [List.exists_mem_cons_iff]

theorem Setting.mem_keys_kept {meant : List String} :
    key ∈ (kept meant settings).map Prod.fst ↔
      ∃ setting ∈ settings, setting.name ∉ meant ∧ key = setting.key := by
  rw [kept, mem_keys_foldl_keep]
  simp only [List.map_nil, List.not_mem_nil, false_or, List.mem_filter, decide_eq_true_eq, and_assoc]

theorem Table.properties_foldl_afterSetting (table : Table) (settings : List Setting) :
    (settings.foldl afterSetting table).properties =
      (settings.filter (·.name ∉ settingNames)).foldl Setting.keep table.properties := by
  rw [List.foldl_filter]
  refine (List.foldl_hom properties fun table setting => ?_).symm
  by_cases known : setting.name ∈ settingNames
  · rw [if_neg (by simpa using known), afterSetting, if_pos (List.mem_singleton.mp known)]
  · rw [if_pos (by simpa using known), table.afterSetting_other known]
    rfl

theorem Column.properties_foldl_afterSetting (column : Column) (settings : List Setting) :
    (settings.foldl afterSetting column).properties =
      (settings.filter (·.name ∉ settingNames)).foldl Setting.keep column.properties := by
  rw [List.foldl_filter]
  refine (List.foldl_hom properties fun column setting => ?_).symm
  by_cases known : setting.name ∈ settingNames
  · rw [if_neg (by simpa using known), column.properties_afterSetting known]
  · rw [if_pos (by simpa using known), column.afterSetting_other known]
    rfl

theorem TableHeader.properties_table (header : TableHeader) (number : Nat) :
    (header.table number).properties = Setting.kept Table.settingNames header.settingList :=
  Table.properties_foldl_afterSetting (header.bareTable number) header.settingList

theorem ColumnLine.properties_column (declared : ColumnLine) (number : Nat) :
    (declared.column number).properties = Setting.kept Column.settingNames declared.settingList :=
  Column.properties_foldl_afterSetting (declared.bareColumn number) declared.settingList

/-- The column has its name and its properties from one of the lines. -/
def Column.IsReadFrom (lines : List SourceLine) (column : Column) : Prop :=
  ∃ line ∈ lines, ∃ declared, ColumnLine.read? line.text.toList = some declared ∧
    column.name = String.ofList declared.name.text ∧
    column.properties = Setting.kept Column.settingNames declared.settingList

/-- The table has its name and its properties from a header among the lines, and its columns are read from
lines as well. -/
structure Table.IsReadFrom (lines : List SourceLine) (table : Table) : Prop where
  header : ∃ line ∈ lines, ∃ header, TableHeader.read? line.text.toList = some header ∧
    table.key = ⟨header.nameParts.1.map String.ofList, String.ofList header.nameParts.2⟩ ∧
    table.properties = Setting.kept Table.settingNames header.settingList
  columns : ∀ column ∈ table.columns, column.IsReadFrom lines

theorem Table.isReadFrom_header {header : TableHeader} {line : SourceLine} (among : line ∈ lines)
    (read : TableHeader.read? line.text.toList = some header) (number : Nat) :
    (header.table number).IsReadFrom lines := by
  obtain ⟨_, key, noColumns⟩ := header.table_kept number
  refine ⟨⟨line, among, header, read, key, header.properties_table number⟩, fun column member => ?_⟩
  rw [noColumns] at member
  cases member

theorem Table.IsReadFrom.withColumn (readFrom : table.IsReadFrom lines) {declared : ColumnLine}
    {line : SourceLine} (among : line ∈ lines) (read : ColumnLine.read? line.text.toList = some declared)
    (number : Nat) :
    Table.IsReadFrom lines { table with columns := table.columns ++ [declared.column number] } := by
  obtain ⟨_, name, _⟩ := declared.column_kept number
  refine ⟨readFrom.header, List.forall_mem_append.mpr ⟨readFrom.columns, ?_⟩⟩
  exact List.forall_mem_singleton.mpr ⟨line, among, declared, read, name, declared.properties_column number⟩

/-- Marks are not read from anywhere. -/
theorem Table.IsReadFrom.congr {other : Table} (readFrom : table.IsReadFrom lines)
    (same : other.unmarked = table.unmarked) : other.IsReadFrom lines := by
  have sameKey : other.key = table.key := (congrArg Table.key same :)
  have sameProperties : other.properties = table.properties := (congrArg Table.properties same :)
  have sameColumns : other.columns.map Column.unmarked = table.columns.map Column.unmarked :=
    congrArg Table.columns same
  refine ⟨by rw [sameKey, sameProperties]; exact readFrom.header, fun column member => ?_⟩
  have among := List.mem_map_of_mem (f := Column.unmarked) member
  rw [sameColumns] at among
  obtain ⟨first, inside, unmarked⟩ := List.mem_map.mp among
  have name : first.name = column.name := (congrArg Column.name unmarked :)
  have properties : first.properties = column.properties := (congrArg Column.properties unmarked :)
  have read := readFrom.columns first inside
  unfold Column.IsReadFrom at read ⊢
  rwa [← name, ← properties]

end

end TableScript
