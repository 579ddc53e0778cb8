import TableScript.Proofs.Ddl.Direction
import TableScript.Proofs.Model.Lookup
import TableScript.Proofs.Read.TargetCheck
import TableScript.Proofs.Read.WellFormed
import TableScript.Proofs.ReferenceGraph.Edges

namespace TableScript

/-- In the graph of the schema and in its foreign keys the reference leads from the one table to the
other, and its columns are declared there. -/
structure Schema.Joins (schema : Schema) (reference : Reference) (source target : Table) : Prop where
  declared : reference ∉ schema.danglingReferences
  edge : ∃ edge ∈ (ReferenceGraph.ofSchema schema).edges, edge.reference = reference
  ends : ∀ edge ∈ (ReferenceGraph.ofSchema schema).edges, edge.reference = reference →
    edge.source = source.qualifiedName ∧ edge.target = target.qualifiedName
  foreignKey : Ddl.foreignKey? schema reference = Ddl.keyBetween? reference source target

section Joins

variable {schema : Schema} {reference : Reference} {endpoint : Endpoint} {source target table : Table}

theorem Schema.declares_of_found
    (found : schema.table? endpoint.table endpoint.schema = some table)
    (column : table.hasColumn endpoint.column = true) : schema.declares endpoint = true := by
  simp only [declares, found, column]

theorem Schema.joins_of_found (distinct : (schema.references.map Reference.id).Nodup)
    (member : reference ∈ schema.references)
    (sourceFound : schema.table? reference.source.table reference.source.schema = some source)
    (sourceColumn : source.hasColumn reference.source.column = true)
    (targetFound : schema.table? reference.target.table reference.target.schema = some target)
    (targetColumn : target.hasColumn reference.target.column = true) :
    schema.Joins reference source target := by
  have edges := ReferenceGraph.edges_ofSchema distinct
  refine ⟨?_, ?_, ?_, Ddl.foreignKey?_eq_keyBetween? sourceFound targetFound⟩
  · intro dangling
    have missing := (List.mem_filter.mp dangling).2
    rw [declares_of_found sourceFound sourceColumn, declares_of_found targetFound targetColumn]
      at missing
    cases missing
  · rw [← List.zipIdx_map_fst 0 schema.references] at member
    obtain ⟨numbered, among, same⟩ := List.mem_map.mp member
    exact ⟨_, by rw [edges]; exact List.mem_map_of_mem among, same⟩
  · intro edge among same
    rw [edges] at among
    obtain ⟨numbered, _, rfl⟩ := List.mem_map.mp among
    have sameReference : numbered.1 = reference := same
    simp only [ReferenceGraph.edgeOf, sameReference, ReferenceGraph.nodeName, sourceFound,
      targetFound, and_self]

end Joins

namespace ReadState

variable {before after : ReadState}

/-- The ends of the references between columns stay settled. -/
def Settled (state : ReadState) : Prop :=
  ∀ reference ∈ state.references, reference.inline = false →
    reference.source.IsSettled state.catalog.tables ∧ reference.target.IsSettled state.catalog.tables

/-- References stay settled while tables are added and marks change. -/
theorem Settled.mono (settled : before.Settled)
    (grown : before.catalog.tables.map Table.signature <+: after.catalog.tables.map Table.signature)
    {reference : Reference} (member : reference ∈ before.references)
    (standalone : reference.inline = false) :
    reference.source.IsSettled after.catalog.tables ∧
      reference.target.IsSettled after.catalog.tables := by
  obtain ⟨source, target⟩ := settled reference member standalone
  exact ⟨source.mono grown, target.mono grown⟩

theorem Settled.advance (settled : before.Settled) (advances : Advances before after) :
    after.Settled := by
  intro reference member standalone
  cases advances with
  | nothing catalog references inlineUses =>
      rw [references] at member
      exact settled.mono ⟨[], by rw [List.append_nil, catalog]⟩ member standalone
  | table table uses tables references inlineUses declared covered =>
      rw [references] at member
      rcases List.mem_append.mp member with old | new
      · refine settled.mono ?_ old standalone
        rw [tables, List.map_append]
        exact List.prefix_append _ _
      · obtain ⟨use, among, rfl⟩ := List.mem_map.mp new
        obtain ⟨column, _, declaredBy⟩ := declared use among
        rw [declaredBy.inline] at standalone
        cases standalone
  | reference added source target _ sourceFound sourceColumn targetFound targetColumn catalog
      references inlineUses =>
      have sameSignatures : after.catalog.tables.map Table.signature =
          before.catalog.tables.map Table.signature := by
        rw [catalog]
        exact (Catalog.isMarking_markForeignKey source.key _).map_signature _
      have grown : before.catalog.tables.map Table.signature <+:
          after.catalog.tables.map Table.signature :=
        ⟨[], by rw [List.append_nil, sameSignatures]⟩
      rw [references] at member
      rcases List.mem_append.mp member with old | new
      · exact settled.mono grown old standalone
      · rw [List.mem_singleton.mp new]
        exact ⟨(Endpoint.isSettled_of_find? sourceFound sourceColumn).mono grown,
          (Endpoint.isSettled_of_find? targetFound targetColumn).mono grown⟩

theorem Reachable.settled (reachable : before.Reachable) : before.Settled := by
  induction reachable with
  | initial =>
      intro reference member
      cases member
  | advance _ advances ih => exact ih.advance advances

/-- Whatever is done about missing targets, references between columns stay settled. -/
theorem ofLines_settled (policy : Policy) (script : String) :
    (ofLines policy .none (SourceLine.ofScript script)).Settled := by
  obtain ⟨check, report⟩ := policy
  obtain ⟨read, sound, reachable, ignoring, warning, cleared, dropped⟩ := exists_read report script
  have settled := reachable.settled
  cases check with
  | ignore => rwa [ignoring]
  | warn => rwa [warning]
  | fail =>
      intro reference member standalone
      rw [dropped.references] at member
      exact settled.mono ⟨[], by rw [List.append_nil, dropped.signatures]⟩
        (List.mem_of_mem_filter member) standalone

end ReadState

/-- How names are found in a script and in the schema that is read from it. For the ends of its
references both find the same table, except where an end is shadowed. A reference between columns whose
ends are not shadowed joins the tables that the catalog finds for it. An inline reference starts at the table
that declared it, and the schema finds that table unless it is shadowed. -/
theorem Reading.joins_of_not_isShadowed (policy : Policy) (script : String) (now : Timestamp) :
    let finished := ReadState.ofLines policy .none (SourceLine.ofScript script)
    let schema := (ofScript policy script).schema now
    (∀ reference ∈ schema.references, ∀ endpoint ∈ [reference.source, reference.target],
      schema.table? endpoint.table endpoint.schema =
          finished.catalog.find? endpoint.table endpoint.schema ↔
        ¬endpoint.IsShadowed schema.tables) ∧
      (∀ reference ∈ schema.references, reference.inline = false →
        ¬reference.source.IsShadowed schema.tables → ¬reference.target.IsShadowed schema.tables →
        ∃ source target,
          finished.catalog.find? reference.source.table reference.source.schema = some source ∧
          finished.catalog.find? reference.target.table reference.target.schema = some target ∧
          schema.Joins reference source target) ∧
      ∀ reference ∈ schema.references, reference.inline = true →
        ∃ table, finished.catalog.find? reference.source.table reference.source.schema = some table ∧
          table.key = ⟨reference.source.schema, reference.source.table⟩ ∧
          table.hasColumn reference.source.column = true ∧
          (schema.table? reference.source.table reference.source.schema = some table ↔
            ¬reference.source.IsShadowed schema.tables) := by
  intro finished schema
  have settled : finished.Settled := ReadState.ofLines_settled policy script
  have same : schema.tables = finished.catalog.tables := rfl
  have agree := Schema.table?_eq_find?_iff same
  refine ⟨fun reference _ endpoint _ => agree endpoint, ?_, ?_⟩
  · intro reference member standalone sourceClear targetClear
    obtain ⟨sourceSettled, targetSettled⟩ := settled reference member standalone
    obtain ⟨source, sourceFound, sourceColumn⟩ := sourceSettled.resolve_left sourceClear
    obtain ⟨target, targetFound, targetColumn⟩ := targetSettled.resolve_left targetClear
    have sourceAgree := (agree reference.source).mpr sourceClear
    have targetAgree := (agree reference.target).mpr targetClear
    exact ⟨source, target, sourceAgree.symm.trans sourceFound, targetAgree.symm.trans targetFound,
      Schema.joins_of_found (nodup_referenceIds policy script) member sourceFound sourceColumn
        targetFound targetColumn⟩
  · intro reference member inline
    have exact : reference.source.IsExact finished.catalog.tables :=
      isExact_source member inline
    obtain ⟨table, found, key, column⟩ := Catalog.find?_of_isExact exact
    refine ⟨table, found, key, column, ?_⟩
    rw [← agree reference.source, found]

theorem Reading.joins_sameName :
    let script := "Table t \x7b\n  a integer\n\x7d\nTable s.t \x7b\n  b integer\n\x7d\nRef: s.t.b > t.a"
    let finished := ReadState.ofLines {} .none (SourceLine.ofScript script)
    let schema := (ofScript {} script).schema "now"
    let reference : Reference :=
      { id := "ref_0", source := ⟨some "s", "t", "b"⟩, target := ⟨none, "t", "a"⟩ }
    reference ∈ schema.references ∧ reference.inline = false ∧
      ¬reference.source.IsShadowed schema.tables ∧ ¬reference.target.IsShadowed schema.tables ∧
      ∃ source target,
        finished.catalog.find? reference.source.table reference.source.schema = some source ∧
        finished.catalog.find? reference.target.table reference.target.schema = some target ∧
        schema.Joins reference source target :=
  ⟨by decide +kernel, rfl, by decide +kernel, by decide +kernel,
    (Reading.joins_of_not_isShadowed {} _ "now").2.1 _ (by decide +kernel) rfl (by decide +kernel)
      (by decide +kernel)⟩

/-- A reference that was read without an error and dangles in the schema: the table without a schema,
which was found for it, stands behind one of the same name that has a schema. The graph joins that one,
and the foreign key names it. -/
theorem Reading.dangles_of_isShadowed :
    let script := "Table s.t \x7b\n  a integer\n\x7d\nTable t \x7b\n  b integer\n\x7d\nRef: t.b > t.b"
    let reading := ofScript {} script
    let finished := ReadState.ofLines {} .none (SourceLine.ofScript script)
    let schema := reading.schema "now"
    reading.errors = [] ∧ ∃ reference ∈ schema.references, reference.inline = false ∧
      (finished.catalog.find? reference.source.table reference.source.schema).map
        Table.qualifiedName = some "t" ∧
      (schema.table? reference.source.table reference.source.schema).map
        Table.qualifiedName = some "s.t" ∧
      reference ∈ schema.danglingReferences ∧
      (ReferenceGraph.ofSchema schema).edges = [⟨"s.t", "s.t", reference, 0⟩] ∧
      Ddl.foreignKey? schema reference =
        some "ALTER TABLE s.t ADD CONSTRAINT fk_t_b FOREIGN KEY (b) REFERENCES s.t (b)" := by
  decide +kernel

end TableScript
