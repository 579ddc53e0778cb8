import TableScript.Proofs.Read.Legible.Basic
import TableScript.Proofs.Read.Sound.Inline
import TableScript.Proofs.Read.Step

namespace TableScript

namespace ReadState

/-- Everything read is as it is read. -/
structure Legible (tables : List Table) (state : ReadState) : Prop where
  tables : ∀ table ∈ tables, table.IsRead
  references : ∀ reference ∈ state.references, reference.IsRead

variable {policy : Policy} {interrupts : Interrupts} {state after : ReadState}
  {tables front : List Table} {table : Table} {line : SourceLine} {header : TableHeader}
  {following rest lines : List SourceLine}

theorem Legible.congr (legible : state.Legible tables) (same : after.references = state.references) :
    after.Legible tables :=
  ⟨legible.tables, by rw [same]; exact legible.references⟩

/-- The table in progress may change, and references may be added. -/
theorem Legible.advance {other : Table} {added : List Reference}
    (legible : state.Legible (front ++ [table])) (read : other.IsRead)
    (references : after.references = state.references ++ added)
    (each : ∀ reference ∈ added, reference.IsRead) : after.Legible (front ++ [other]) := by
  refine ⟨?_, ?_⟩
  · rw [List.forall_mem_append, List.forall_mem_singleton]
    exact ⟨fun before member => legible.tables before (List.mem_append_left _ member), read⟩
  · rw [references, List.forall_mem_append]
    exact ⟨legible.references, each⟩

theorem takeBodyItem_legible (policy : Policy) (item : BodyItem)
    (legible : state.Legible (front ++ [table])) :
    (takeBodyItem policy (state, table) item).1.Legible
      (front ++ [(takeBodyItem policy (state, table) item).2]) := by
  have read : table.IsRead := legible.tables table (by simp)
  have effect := takeBodyItem_effect policy state table item
  generalize takeBodyItem policy (state, table) item = taken at effect ⊢
  cases effect with
  | nothing _ references _ => exact legible.congr references
  | note text =>
      exact legible.advance ⟨read.properties, read.columns⟩ (List.append_nil _).symm (by simp)
  | @column line declared _ _ =>
      refine legible.advance (Table.IsRead.withColumn read (declared.isRead_column _))
        (references_adding _ (declared.diagnostics policy line)) ?_
      rw [List.forall_mem_map]
      exact fun use member => ColumnLine.isRead_of_mem_inlineUses member

theorem foldl_takeBodyItem_legible (policy : Policy) (items : List BodyItem)
    (legible : state.Legible (front ++ [table])) :
    (items.foldl (takeBodyItem policy) (state, table)).1.Legible
      (front ++ [(items.foldl (takeBodyItem policy) (state, table)).2]) := by
  induction items generalizing state table with
  | nil => exact legible
  | cons item items ih => exact ih (takeBodyItem_legible policy item legible)

theorem readBody_legible (policy : Policy) (line : SourceLine) (header : TableHeader)
    (following : List SourceLine) (legible : state.Legible (front ++ [table])) :
    (readBody policy line header following (state, table)).1.1.Legible
      (front ++ [(readBody policy line header following (state, table)).1.2]) := by
  unfold readBody
  cases header.bodyLines? following with
  | none => exact legible
  | some lines =>
      have items := foldl_takeBodyItem_legible policy (Body.ofLines lines).items legible
      dsimp only
      cases (Body.ofLines lines).closed with
      | true => exact items
      | false => exact items.congr rfl

/-- What a line begins is read legibly. -/
theorem Effect.legible (effect : Effect policy state line following after)
    (legible : state.Legible state.catalog.tables) : after.Legible after.catalog.tables := by
  cases effect with
  | nothing catalog references _ =>
      rw [catalog]
      exact legible.congr references
  | @table _ read header table body tables references _ =>
      have headed : (state.withHeader policy line header).Legible
          (state.catalog.tables ++ [header.table state.tablesNumbered]) := by
        refine ⟨?_, by simpa [withHeader] using legible.references⟩
        rw [List.forall_mem_append, List.forall_mem_singleton]
        exact ⟨legible.tables, header.isRead_table _⟩
      have inside := readBody_legible policy line header following headed
      rw [body] at inside
      rw [tables]
      exact inside.congr references
  | @reference written source read resolved =>
      refine ⟨?_, ?_⟩
      · intro table member
        obtain ⟨before, listed, rfl⟩ := List.mem_map.mp member
        exact IsMarking.isRead
          (Catalog.isMarking_markForeignKey source.key written.source.column)
          (legible.tables before listed)
      · rw [withReference, List.forall_mem_append, List.forall_mem_singleton]
        exact ⟨legible.references, ReferenceLine.isRead_reference read _⟩

theorem readLines_legible (legible : state.Legible state.catalog.tables) (lines : List SourceLine) :
    (readLines policy interrupts state lines).1.Legible
      (readLines policy interrupts state lines).1.catalog.tables := by
  fun_induction ReadState.readLines policy interrupts state lines with
  | case1 state => exact legible
  | case2 state line following after rest done ih =>
      exact ih ((readKind_effect (step_eq_ok_iff.mp done).2).legible legible)
  | case3 state line following failure done => exact legible

end ReadState

/-- The references of a reading are as they are read, whatever was asked for. -/
theorem Reading.isRead_of_mem_references {policy : Policy} {script : String} {reference : Reference}
    (member : reference ∈ (ofScript policy script).references) : reference.IsRead := by
  obtain ⟨read, after, lines, _, _, checked, complete⟩ := ReadState.ofLines_checked policy script
  have initial : ({} : ReadState).Legible ({} : ReadState).catalog.tables :=
    ⟨by simp [Catalog.empty], by simp⟩
  have legible : (ReadState.readLines policy .none {} (SourceLine.ofScript script)).1.Legible _ :=
    ReadState.readLines_legible initial (SourceLine.ofScript script)
  rw [lines] at legible
  simp only [ofScript, ofInterrupted, complete] at member
  exact legible.references reference (checked.kept.subset member)

/-- A script that is read as usual. -/
theorem Reading.isRead_ofScript (script : String) :
    (∀ table ∈ (ofScript {} script).tables, table.IsRead) ∧
      ∀ reference ∈ (ofScript {} script).references, reference.IsRead := by
  obtain ⟨read, after, lines, _, checked, _, complete⟩ := ReadState.ofLines_checked {} script
  have initial : ({} : ReadState).Legible ({} : ReadState).catalog.tables :=
    ⟨by simp [Catalog.empty], by simp⟩
  have legible : (ReadState.readLines {} .none {} (SourceLine.ofScript script)).1.Legible _ :=
    ReadState.readLines_legible initial (SourceLine.ofScript script)
  cases checked
  rw [lines] at legible
  simp only [ofScript, ofInterrupted, complete]
  exact ⟨legible.tables, legible.references⟩

end TableScript
