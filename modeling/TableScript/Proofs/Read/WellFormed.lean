import TableScript.Proofs.Read.Sound.Inline

namespace TableScript

open List

/-- What holds of the tables and references of a reading, whatever was wrong with the script. -/
structure Reading.WellFormed (check : TargetCheck) (reading : Reading) : Prop where
  distinct : (reading.tables.map Table.key).Nodup
  tables : ∀ table ∈ reading.tables, table.WellFormed
  tableIds : reading.tables.map Table.id = numbered "table_" reading.tables.length
  columnIds : (reading.tables.flatMap Table.columns).map Column.id =
    numbered "col_" (reading.tables.flatMap Table.columns).length
  /-- Numbers are missing only where inline references were dropped. -/
  referenceIds : ∃ numbers : List Nat, numbers.Pairwise (· < ·) ∧
    reading.references.map Reference.id = numbers.map (fun number => "ref_" ++ toString number) ∧
    (check ≠ .fail → numbers = List.range reading.references.length)
  standalone : ∀ reference ∈ reading.references, reference.inline = false →
    reference.source.IsDeclared reading.tables ∧ reference.target.IsDeclared reading.tables
  inline : ∀ reference ∈ reading.references, reference.inline = true →
    reference.source.IsExact reading.tables

theorem length_numbered (label : String) (count : Nat) : (numbered label count).length = count := by
  rw [numbered, List.length_map, List.length_range]

theorem eq_numbered_length {ids : List String} {label : String} {count : Nat}
    (given : ids = numbered label count) : ids = numbered label ids.length := by
  rw [given, length_numbered]

/-- References among numbered ones keep their numbers and their order. -/
theorem exists_numbers {references before : List Reference} {count : Nat}
    (kept : references.Sublist before)
    (ids : before.map Reference.id = numbered "ref_" count) :
    ∃ numbers : List Nat, numbers.Pairwise (· < ·) ∧
      references.map Reference.id = numbers.map (fun number => "ref_" ++ toString number) ∧
      (references = before → numbers = List.range references.length) := by
  have sublist := kept.map Reference.id
  rw [ids, numbered] at sublist
  obtain ⟨numbers, among, same⟩ := List.sublist_map_iff.mp sublist
  refine ⟨numbers, List.pairwise_lt_range.sublist among, same, ?_⟩
  intro same
  subst same
  have long : numbers.length = count := by
    have lengths := congrArg List.length (same.symm.trans ids)
    simpa [length_numbered] using lengths
  have whole : numbers = List.range count := among.eq_of_length (by simp [long])
  have references_long : references.length = count := by
    simpa [length_numbered] using congrArg List.length ids
  rw [whole, references_long]

namespace Reading

variable {policy : Policy} {script : String}

/-- A reading shows the tables and references of the state in which the script is done. -/
theorem exists_finished (policy : Policy) (script : String) :
    ∃ read after : ReadState, (ofScript policy script).tables = after.catalog.tables ∧
      (ofScript policy script).references = after.references ∧
      read.Sound read.catalog.tables ∧ ReadState.Checked policy.targetCheck read [] after := by
  obtain ⟨read, after, _, sound, _, checked, complete⟩ := ReadState.ofLines_checked policy script
  refine ⟨read, after, ?_, ?_, sound, checked⟩ <;> simp only [ofScript, ofInterrupted, complete]

theorem distinct_ofScript (policy : Policy) (script : String) :
    ((ofScript policy script).tables.map Table.key).Nodup := by
  obtain ⟨_, after, tables, _⟩ := exists_finished policy script
  rw [tables]
  exact after.catalog.distinct

theorem wellFormed_of_mem_tables {table : Table} (member : table ∈ (ofScript policy script).tables) :
    table.WellFormed := by
  obtain ⟨_, _, tables, _, _, checked⟩ := exists_finished policy script
  rw [tables] at member
  exact checked.grounded.wellFormed table member

theorem nodup_referenceIds (policy : Policy) (script : String) :
    ((ofScript policy script).references.map Reference.id).Nodup := by
  obtain ⟨_, _, _, references, sound, checked⟩ := exists_finished policy script
  obtain ⟨numbers, ascending, ids, _⟩ := exists_numbers checked.kept sound.referenceIds
  rw [references, ids]
  exact nodup_map_label "ref_" (ascending.imp fun less => Nat.ne_of_lt less)

/-- The table that declares an inline reference is there, with the column. -/
theorem isExact_source {reference : Reference} (member : reference ∈ (ofScript policy script).references)
    (inline : reference.inline = true) : reference.source.IsExact (ofScript policy script).tables := by
  obtain ⟨_, _, tables, references, _, checked⟩ := exists_finished policy script
  rw [references] at member
  rw [tables]
  exact checked.grounded.inline reference member inline

end Reading

/-- Every reading is well-formed, whatever the script and the policy. -/
theorem Reading.wellFormed_ofScript (policy : Policy) (script : String) :
    (Reading.ofScript policy script).WellFormed policy.targetCheck := by
  obtain ⟨_, after, tables, references, sound, checked⟩ := exists_finished policy script
  obtain ⟨numbers, ascending, ids, whole⟩ := exists_numbers checked.kept sound.referenceIds
  have grounded := checked.grounded
  have tableIds := eq_numbered_length grounded.tableIds
  have columnIds := eq_numbered_length grounded.columnIds
  rw [List.length_map] at tableIds columnIds
  constructor <;> simp only [tables, references]
  · exact after.catalog.distinct
  · exact grounded.wellFormed
  · exact tableIds
  · exact columnIds
  · exact ⟨numbers, ascending, ids, fun kept => whole (checked.complete kept)⟩
  · exact grounded.standalone
  · exact grounded.inline

end TableScript
