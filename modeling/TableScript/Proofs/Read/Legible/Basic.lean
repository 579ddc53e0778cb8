import TableScript.Proofs.Model.Expressible
import TableScript.Proofs.Read.Reference
import TableScript.Proofs.Read.Table

namespace TableScript

open Text

/-- Properties as they are read: a key is there once and has no meaning. -/
structure Properties.IsRead (properties : Properties) (known : List String) : Prop where
  distinct : (properties.map Prod.fst).Nodup
  unknown : ∀ entry ∈ properties, (Setting.mk entry.1 none).name ∉ known

structure Table.IsRead (table : Table) : Prop where
  properties : table.properties.IsRead Table.settingNames
  columns : ∀ column ∈ table.columns, column.properties.IsRead Column.settingNames

/-- The source of an inline reference is a column of any name, and it has no actions. -/
structure Reference.IsRead (reference : Reference) : Prop where
  target : reference.target.IsWordy
  source : reference.inline = false → reference.source.IsWordy
  named : ∀ name ∈ reference.name, IsWordText name.toList
  actionless : reference.inline = true → reference.onDelete = none ∧ reference.onUpdate = none

namespace Entries

variable {α : Type} {entries : List (String × α)} {entry : String × α} {key : String} {value : α}

theorem eq_or_mem_of_mem_put (member : entry ∈ put key value entries) :
    entry = (key, value) ∨ entry ∈ entries := by
  induction entries with
  | nil => exact .inl (List.mem_singleton.mp member)
  | cons first rest ih =>
      rw [put] at member
      split at member
      · rename_i same
        rcases List.mem_cons.mp member with rfl | later
        · exact .inl (by rw [same])
        · exact .inr (List.mem_cons_of_mem first later)
      · rcases List.mem_cons.mp member with rfl | later
        · exact .inr List.mem_cons_self
        · exact (ih later).imp_right (List.mem_cons_of_mem first)

theorem nodup_keys_put (distinct : (entries.map Prod.fst).Nodup) :
    ((put key value entries).map Prod.fst).Nodup := by
  rw [keys_put]
  split
  · exact distinct
  · rename_i fresh
    rw [List.nodup_append]
    refine ⟨distinct, by simp, fun other known last single same => fresh ?_⟩
    rw [← List.mem_singleton.mp single, ← same]
    exact known

end Entries

section Settings

variable {properties : Properties} {known : List String} {setting : Setting}

theorem Properties.isRead_nil : Properties.IsRead [] known :=
  ⟨List.nodup_nil, by simp⟩

theorem Properties.IsRead.put (read : properties.IsRead known) (other : setting.name ∉ known) :
    Properties.IsRead (Entries.put setting.key setting.property properties) known where
  distinct := Entries.nodup_keys_put read.distinct
  unknown := by
    intro entry member
    rcases Entries.eq_or_mem_of_mem_put member with rfl | before
    · exact other
    · exact read.unknown entry before

theorem Column.afterSetting_other (column : Column) (other : setting.name ∉ Column.settingNames) :
    column.afterSetting setting =
      { column with properties := Entries.put setting.key setting.property column.properties } := by
  simp only [settingNames, List.mem_cons, List.not_mem_nil, or_false, not_or] at other
  obtain ⟨short, long, required, unique, default, note, reference⟩ := other
  simp [afterSetting, short, long, required, unique, default, note, reference]

theorem Column.properties_afterSetting (column : Column) (known : setting.name ∈ settingNames) :
    (column.afterSetting setting).properties = column.properties := by
  simp only [settingNames, List.mem_cons, List.not_mem_nil, or_false] at known
  rcases known with named | named | named | named | named | named | named
  all_goals simp [afterSetting, named]

theorem Column.isRead_afterSetting {column : Column} (read : column.properties.IsRead settingNames)
    (setting : Setting) : (column.afterSetting setting).properties.IsRead settingNames := by
  by_cases known : setting.name ∈ settingNames
  · rwa [column.properties_afterSetting known]
  · rw [column.afterSetting_other known]
    exact read.put known

theorem Table.afterSetting_other (table : Table) (other : setting.name ∉ Table.settingNames) :
    table.afterSetting setting =
      { table with properties := Entries.put setting.key setting.property table.properties } := by
  rw [settingNames, List.mem_singleton] at other
  rw [afterSetting, if_neg other]

theorem Table.isRead_afterSetting {table : Table} (read : table.properties.IsRead settingNames)
    (setting : Setting) : (table.afterSetting setting).properties.IsRead settingNames := by
  by_cases known : setting.name ∈ settingNames
  · rw [afterSetting, if_pos (List.mem_singleton.mp known)]
    exact read
  · rw [table.afterSetting_other known]
    exact read.put known

theorem ColumnLine.isRead_column (declared : ColumnLine) (number : Nat) :
    (declared.column number).properties.IsRead Column.settingNames :=
  List.foldlRecOn (motive := fun column : Column => column.properties.IsRead Column.settingNames)
    declared.settingList Column.afterSetting Properties.isRead_nil
    fun _ read setting _ => Column.isRead_afterSetting read setting

theorem TableHeader.isRead_table (header : TableHeader) (number : Nat) :
    (header.table number).IsRead where
  properties :=
    List.foldlRecOn (motive := fun table : Table => table.properties.IsRead Table.settingNames)
      header.settingList Table.afterSetting Properties.isRead_nil
      fun _ read setting _ => Table.isRead_afterSetting read setting
  columns := by
    rw [(header.table_kept number).2.2]
    simp

end Settings

section References

variable {written : ReferenceLine} {text : List Char}

theorem InlineReference.isWordy_target {inline : InlineReference} (read : read? text = some inline) :
    inline.target.IsWordy := by
  simp only [read?, Option.bind_eq_bind, Option.bind_eq_some_iff] at read
  obtain ⟨_, _, ⟨target, rest⟩, targetRead, last⟩ := read
  split at last
  · cases last
    exact (Endpoint.eq_written_append_of_read? targetRead).2
  · cases last

theorem Setting.isWordy_inline {setting : Setting} {inline : InlineReference}
    (given : setting.inline? = some inline) : inline.target.IsWordy := by
  unfold inline? at given
  split at given
  · exact InlineReference.isWordy_target given
  · cases given

theorem ColumnLine.isRead_of_mem_inlineUses {declared : ColumnLine} {table : Table}
    {line : SourceLine} {column number : Nat} {use : InlineUse}
    (member : use ∈ declared.inlineUses table line column number) : use.reference.IsRead := by
  obtain ⟨⟨inline, place⟩, among, rfl⟩ := List.mem_map.mp member
  obtain ⟨setting, _, given⟩ := List.mem_filterMap.mp (List.fst_mem_of_mem_zipIdx among)
  exact ⟨Setting.isWordy_inline given, by simp [Table.inlineUse], by simp [Table.inlineUse],
    fun _ => ⟨rfl, rfl⟩⟩

theorem ReferenceLine.isWordText_of_readName {name : List Char} {rest : List Char}
    (read : readName text = (some name, rest)) : IsWordText name := by
  unfold readName at read
  split at read
  · split at read
    · rename_i found
      cases read
      exact (eq_append_of_word? found).2
    · cases read
  · cases read

theorem ReferenceLine.isRead_reference (read : read? text = some written) (number : Nat) :
    (written.reference number).IsRead := by
  obtain ⟨_, sourceKept, targetKept, nameKept, standalone⟩ := written.reference_kept number
  simp only [read?, Option.bind_eq_bind, Option.bind_eq_some_iff] at read
  obtain ⟨behindKeyword, _, behindColon, _, ⟨source, behindSource⟩, sourceRead, _, _,
    ⟨target, behindTarget⟩, targetRead, settings, _, last⟩ := read
  cases last
  refine ⟨?_, fun _ => ?_, ?_, fun inline => ?_⟩
  · rw [targetKept]
    exact (Endpoint.eq_written_append_of_read? targetRead).2
  · rw [sourceKept]
    exact (Endpoint.eq_written_append_of_read? sourceRead).2
  · intro name given
    rw [nameKept] at given
    obtain ⟨word, named, rfl⟩ := Option.map_eq_some_iff.mp given
    rw [String.toList_ofList]
    exact isWordText_of_readName (Prod.ext named rfl)
  · rw [standalone] at inline
    cases inline

end References

theorem Table.IsRead.withColumn {table : Table} (read : table.IsRead) {column : Column}
    (properties : column.properties.IsRead Column.settingNames) :
    { table with columns := table.columns ++ [column] }.IsRead := by
  refine ⟨read.properties, ?_⟩
  rw [List.forall_mem_append, List.forall_mem_singleton]
  exact ⟨read.columns, properties⟩

theorem IsMarking.isRead {table : Table} {change : Table → List Column} (marking : IsMarking change)
    (read : table.IsRead) : (table.withColumns change).IsRead := by
  refine ⟨read.properties, ?_⟩
  have properties := marking.map_eq Column.properties (fun _ => rfl) table
  intro column member
  have among : column.properties ∈ (change table).map Column.properties := List.mem_map_of_mem member
  rw [properties] at among
  obtain ⟨before, listed, same⟩ := List.mem_map.mp among
  rw [← same]
  exact read.columns before listed

end TableScript
