import TableScript.Proofs.RoundTrip.Outline
import TableScript.Proofs.Write.OneLine

namespace TableScript

variable {layout : Layout} {schema : Schema} {table : Table} {column : Column}
  {reference : Reference} {references found : List Reference}

theorem flatMap_ite_name (columns : List Column) (name : String) (references : List Reference) :
    (columns.flatMap fun column => if column.name = name then references else []) =
      (List.replicate ((columns.map Column.name).count name) references).flatten := by
  induction columns with
  | nil => rfl
  | cons column rest ih =>
      rw [List.flatMap_cons, ih, List.map_cons]
      by_cases same : column.name = name
      · rw [if_pos same, same, List.count_cons_self, List.replicate_succ, List.flatten_cons]
      · rw [if_neg same, List.count_cons_of_ne same, List.nil_append]

/-- No other table has the key of a table. -/
theorem flatMap_ite_key {α : Type} {tables : List Table} (distinct : (tables.map Table.key).Nodup)
    (member : table ∈ tables) (part : Table → List α) :
    (tables.flatMap fun other => if other.key = table.key then part other else []) = part table := by
  induction tables with
  | nil => cases member
  | cons first rest ih =>
      rw [List.map_cons, List.nodup_cons] at distinct
      obtain ⟨fresh, others⟩ := distinct
      rw [List.flatMap_cons]
      rcases List.mem_cons.mp member with rfl | later
      · have nothing : (rest.flatMap fun other =>
            if other.key = table.key then part other else []) = [] := by
          rw [List.flatMap_eq_nil_iff]
          intro other among
          refine if_neg fun same => fresh ?_
          rw [← same]
          exact List.mem_map_of_mem among
        rw [if_pos rfl, nothing, List.append_nil]
      · have different : first.key ≠ table.key := by
          intro same
          rw [same] at fresh
          exact fresh (List.mem_map_of_mem later)
        rw [if_neg different, List.nil_append, ih others later]

namespace Schema

/-- The references that are written with a column, once for each column of its name. -/
def repeated (schema : Schema) (table : Table) (column : Column) : List Reference :=
  (List.replicate ((table.columns.map Column.name).count column.name)
    (schema.inlineReferences table column)).flatten

theorem filter_inlineReferences (schema : Schema) (table other : Table) (column otherColumn : Column) :
    (schema.inlineReferences other otherColumn).filter
        (·.source == ⟨table.schema, table.name, column.name⟩) =
      if other.key = table.key then
        if otherColumn.name = column.name then schema.inlineReferences table column else []
      else [] := by
  have sources : ∀ reference ∈ schema.inlineReferences other otherColumn,
      reference.source = ⟨other.schema, other.name, otherColumn.name⟩ :=
    fun reference member => (writesInline_of_mem_inlineReferences member).2.1
  have elsewhere : ¬(other.key = table.key ∧ otherColumn.name = column.name) →
      (schema.inlineReferences other otherColumn).filter
        (·.source == ⟨table.schema, table.name, column.name⟩) = [] := by
    intro different
    rw [List.filter_eq_nil_iff]
    intro reference member same
    rw [sources reference member, beq_iff_eq, Endpoint.mk.injEq] at same
    obtain ⟨qualifier, name, columnName⟩ := same
    exact different ⟨by rw [Table.key, Table.key, qualifier, name], columnName⟩
  by_cases key : other.key = table.key
  · by_cases name : otherColumn.name = column.name
    · have same : schema.inlineReferences other otherColumn = schema.inlineReferences table column := by
        rw [inlineReferences_eq_inlineAt, inlineReferences_eq_inlineAt, key, name]
      rw [if_pos key, if_pos name, same, List.filter_eq_self]
      intro reference member
      rw [(writesInline_of_mem_inlineReferences member).2.1, beq_iff_eq]
    · rw [if_pos key, if_neg name, elsewhere fun both => name both.2]
  · rw [if_neg key, elsewhere fun both => key both.1]

/-- What is written with the columns of a name in a table. -/
theorem filter_writtenInline (distinct : (schema.tables.map Table.key).Nodup)
    (member : table ∈ schema.tables) (column : Column) :
    schema.writtenInline.filter (·.source == ⟨table.schema, table.name, column.name⟩) =
      schema.repeated table column := by
  have each : ∀ other : Table, (other.columns.flatMap (schema.inlineReferences other)).filter
        (·.source == ⟨table.schema, table.name, column.name⟩) =
      if other.key = table.key then
        other.columns.flatMap fun otherColumn =>
          if otherColumn.name = column.name then schema.inlineReferences table column else []
      else [] := by
    intro other
    rw [List.filter_flatMap, List.flatMap_congr fun otherColumn _ =>
      schema.filter_inlineReferences table other column otherColumn]
    split
    · rfl
    · simp
  rw [writtenInline, List.filter_flatMap, List.flatMap_congr fun other _ => each other,
    flatMap_ite_key distinct member, flatMap_ite_name, repeated]

theorem writesInline_ofReference (written : schema.writesInline reference = true) (number : Nat) :
    schema.writesInline ((InlineDraft.ofReference reference).reference number) = true := by
  simp only [writesInline, Bool.and_eq_true] at written
  simpa [writesInline, InlineDraft.ofReference, InlineDraft.reference, isGiven] using written.2

/-- The schema with the references that are read back of its script. -/
def withReread (schema : Schema) (found : List Reference) : Schema :=
  { schema with
    references :=
      InlineDraft.references (schema.writtenInline.map InlineDraft.ofReference) 0 ++ found }

theorem exists_draft_of_mem_reread {drafts : List Reference} {number : Nat}
    (member : reference ∈ InlineDraft.references (drafts.map InlineDraft.ofReference) number) :
    ∃ draft ∈ drafts, ∃ place,
      reference = (InlineDraft.ofReference draft).reference place := by
  obtain ⟨pair, among, rfl⟩ := List.mem_map.mp member
  obtain ⟨draft, listed, same⟩ := List.mem_map.mp (List.fst_mem_of_mem_zipIdx among)
  exact ⟨draft, listed, pair.2, by rw [same]⟩

theorem writesInline_of_mem_reread {number : Nat} (member : reference ∈
      InlineDraft.references (schema.writtenInline.map InlineDraft.ofReference) number) :
    schema.writesInline reference = true := by
  obtain ⟨draft, listed, place, rfl⟩ := exists_draft_of_mem_reread member
  obtain ⟨table, _, among⟩ := List.mem_flatMap.mp listed
  obtain ⟨column, _, written⟩ := List.mem_flatMap.mp among
  exact writesInline_ofReference (writesInline_of_mem_inlineReferences written).2.2 place

theorem writesInline_eq_false (standalone : reference.inline = false) :
    schema.writesInline reference = false := by
  simp [writesInline, standalone]

theorem standaloneReferences_withReread (standalone : ∀ reference ∈ found, reference.inline = false) :
    (schema.withReread found).standaloneReferences = found := by
  have front : (InlineDraft.references (schema.writtenInline.map InlineDraft.ofReference) 0).filter
      (fun reference => !schema.writesInline reference) = [] := by
    rw [List.filter_eq_nil_iff]
    intro reference member
    simp [writesInline_of_mem_reread member]
  have back : found.filter (fun reference => !schema.writesInline reference) = found := by
    rw [List.filter_eq_self]
    intro reference member
    simp [writesInline_eq_false (standalone reference member)]
  change List.filter (fun reference => !schema.writesInline reference) (_ ++ found) = found
  rw [List.filter_append, front, back, List.nil_append]

/-- A reference keeps its source and what is written of it with a column. -/
theorem map_inlineText_reread (drafts : List Reference) (source : Endpoint) (number : Nat) :
    ((InlineDraft.references (drafts.map InlineDraft.ofReference) number).filter
        (·.source == source)).map Reference.inlineText =
      (drafts.filter (·.source == source)).map Reference.inlineText := by
  induction drafts generalizing number with
  | nil => rfl
  | cons draft drafts ih =>
      have split : InlineDraft.references ((draft :: drafts).map InlineDraft.ofReference) number =
          (InlineDraft.ofReference draft).reference number ::
            InlineDraft.references (drafts.map InlineDraft.ofReference) (number + 1) := by
        simp [InlineDraft.references]
      have kept : ((InlineDraft.ofReference draft).reference number).source = draft.source := rfl
      have text : ((InlineDraft.ofReference draft).reference number).inlineText =
          draft.inlineText := rfl
      rw [split, List.filter_cons, List.filter_cons, kept]
      split
      · rw [List.map_cons, List.map_cons, ih, text]
      · exact ih _

/-- The references that are back at a column: those written with it, as often as they were written. -/
theorem map_inlineText_withReread (distinct : (schema.tables.map Table.key).Nodup)
    (member : table ∈ schema.tables) (column : Column)
    (standalone : ∀ reference ∈ found, reference.inline = false) :
    ((schema.withReread found).inlineReferences table column).map Reference.inlineText =
      (schema.repeated table column).map Reference.inlineText := by
  have front : (InlineDraft.references (schema.writtenInline.map InlineDraft.ofReference) 0).filter
      (fun reference => reference.source == ⟨table.schema, table.name, column.name⟩ &&
        schema.writesInline reference) =
      (InlineDraft.references (schema.writtenInline.map InlineDraft.ofReference) 0).filter
        (·.source == ⟨table.schema, table.name, column.name⟩) :=
    List.filter_congr fun reference among => by
      rw [writesInline_of_mem_reread among, Bool.and_true]
  have back : found.filter (fun reference =>
      reference.source == ⟨table.schema, table.name, column.name⟩ &&
        schema.writesInline reference) = [] := by
    rw [List.filter_eq_nil_iff]
    intro reference among
    simp [writesInline_eq_false (standalone reference among)]
  have split : (schema.withReread found).inlineReferences table column =
      (InlineDraft.references (schema.writtenInline.map InlineDraft.ofReference) 0).filter
        (·.source == ⟨table.schema, table.name, column.name⟩) := by
    change List.filter (fun reference =>
      reference.source == ⟨table.schema, table.name, column.name⟩ &&
        schema.writesInline reference) (_ ++ found) = _
    rw [List.filter_append, front, back, List.append_nil]
  rw [split, map_inlineText_reread, filter_writtenInline distinct member]

end Schema

namespace ReadState

variable {state : ReadState} {line : SourceLine} {lines : List SourceLine}

/-- A reference on a line of its own that is found again is written as before. -/
theorem exists_found_of_resolves (plain : reference.onOwnLine.IsPlain)
    (text : line.text = reference.lineText) (resolves : line.Resolves state.catalog) :
    ∃ back : Reference,
      (readReference {} state line).references = state.references ++ [back] ∧
      back.inline = false ∧ Write.referenceLine back = Write.referenceLine reference := by
  obtain ⟨written, parsed, source, resolved⟩ := resolves
  have sameText : reference.onOwnLine.lineText = reference.lineText := by
    rw [Reference.lineText, reference.referenceLine_onOwnLine]
    rfl
  obtain ⟨again, parsedAgain, _, _, given⟩ := plain.exists_read rfl
  rw [sameText, ← text, parsed] at parsedAgain
  cases parsedAgain
  refine ⟨written.reference state.referencesNumbered, ?_, ?_, ?_⟩
  · rw [readReference_resolved parsed resolved, withReference]
  · rw [given]
    rfl
  · rw [← reference.referenceLine_onOwnLine, given]
    rfl

/-- Of the references on lines of their own, those come back that are found again. -/
theorem exists_found (state : ReadState)
    (plain : ∀ reference ∈ references, reference.onOwnLine.IsPlain)
    (texts : lines.map SourceLine.text = references.map Reference.lineText) :
    ∃ found : List Reference,
      (lines.foldl (readReference {}) state).references = state.references ++ found ∧
      (∀ reference ∈ found, reference.inline = false) ∧
      (found.map Write.referenceLine).Sublist (references.map Write.referenceLine) ∧
      (found.length = references.length ↔ ∀ line ∈ lines, line.Resolves state.catalog) := by
  induction lines generalizing state references with
  | nil =>
      obtain rfl := List.map_eq_nil_iff.mp texts.symm
      exact ⟨[], by simp, by simp, .slnil, by simp⟩
  | cons line lines ih =>
      obtain ⟨reference, references, rfl, text, texts⟩ := List.map_eq_cons_iff.mp texts.symm
      obtain ⟨first, others⟩ := List.forall_mem_cons.mp plain
      obtain ⟨found, read, standalone, sublist, all⟩ :=
        ih (readReference {} state line) others texts.symm
      have kept : ∀ other : SourceLine, other.Resolves (readReference {} state line).catalog ↔
          other.Resolves state.catalog :=
        fun other => SourceLine.resolves_congr map_signature_readReference
      simp only [kept] at all
      rw [List.foldl_cons, List.forall_mem_cons]
      by_cases resolves : line.Resolves state.catalog
      · obtain ⟨back, one, unattached, sameLine⟩ :=
          exists_found_of_resolves first text.symm resolves
        refine ⟨back :: found, ?_, List.forall_mem_cons.mpr ⟨unattached, standalone⟩, ?_, ?_⟩
        · rw [read, one, List.append_assoc, List.singleton_append]
        · rw [List.map_cons, List.map_cons, sameLine]
          exact sublist.cons_cons _
        · rw [List.length_cons, List.length_cons, Nat.add_right_cancel_iff, all]
          exact (and_iff_right resolves).symm
      · obtain ⟨error, _, reported⟩ := readReference_unresolved {} resolves
        have same : (readReference {} state line).references = state.references := by
          rw [reported]
          simp
        have fewer : found.length ≤ references.length := by simpa using sublist.length_le
        refine ⟨found, by rw [read, same], standalone, sublist.cons _, ?_⟩
        rw [List.length_cons]
        exact iff_of_false (by omega) fun both => resolves both.1

end ReadState

end TableScript
