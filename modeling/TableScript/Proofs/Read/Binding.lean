import TableScript.Proofs.Model.Binding
import TableScript.Proofs.Read.Sound.Inline
import TableScript.Proofs.Read.Step

/-! The tables that the ends of a reference mean where it is read, and at the end of the script. Lines that
are read later declare tables behind those there are and change marks, and nothing else, so an end goes over
to another table only where its table is displaced. -/

namespace TableScript

namespace ReadState

variable {policy : Policy} {interrupts : Interrupts} {check : TargetCheck}
  {state before after : ReadState} {lines left : List SourceLine}

/-- Reading the lines comes to the state, with these lines left. -/
inductive ComesTo (policy : Policy) (lines : List SourceLine) : ReadState → List SourceLine → Prop where
  | start : ComesTo policy lines {} lines
  | step {state after : ReadState} {line : SourceLine} {following rest : List SourceLine}
      (there : ComesTo policy lines state (line :: following))
      (done : ReadState.step policy .none state line following = .ok (after, rest)) :
      ComesTo policy lines after rest

theorem ComesTo.readLines_eq (there : ComesTo policy lines state left) :
    readLines policy .none {} lines = readLines policy .none state left := by
  induction there with
  | start => rfl
  | step _ done ih => rw [ih, readLines_cons done]

/-- A step declares at most one table, behind the others, and changes at most marks of those. -/
theorem Advances.map_unmarked_prefix (advances : Advances before after) :
    before.catalog.tables.map Table.unmarked <+: after.catalog.tables.map Table.unmarked := by
  cases advances with
  | nothing catalog => exact catalog ▸ List.prefix_rfl
  | table table _ tables =>
      rw [tables, List.map_append]
      exact List.prefix_append _ _
  | reference reference source _ _ _ _ _ _ catalog =>
      have marking := Catalog.isMarking_markForeignKey source.key reference.source.column
      have same : after.catalog.tables.map Table.unmarked = before.catalog.tables.map Table.unmarked := by
        rw [catalog]
        exact marking.map_unmarked before.catalog.tables
      exact same ▸ List.prefix_rfl

theorem map_unmarked_prefix_readLines (state : ReadState) (lines : List SourceLine) :
    state.catalog.tables.map Table.unmarked <+:
      (readLines policy interrupts state lines).1.catalog.tables.map Table.unmarked := by
  fun_induction readLines policy interrupts state lines with
  | case1 state => exact List.prefix_refl _
  | case2 state line following after rest done ih =>
      have advances := (readKind_effect (step_eq_ok_iff.mp done).2).advances
      exact advances.map_unmarked_prefix.trans ih
  | case3 state line following failure failed => exact List.prefix_refl _

theorem map_unmarked_of_checkInline {use : InlineUse} (done : checkInline check state use = .ok after) :
    after.catalog.tables.map Table.unmarked = state.catalog.tables.map Table.unmarked := by
  unfold checkInline at done
  split at done
  · cases done
    rfl
  · split at done
    · cases done
      rfl
    · cases done
      rfl
    · unfold dropInline at done
      split at done
      · cases done
        exact (Catalog.isMarking_setForeignKey use.columnId _).map_unmarked _
      · cases done

theorem map_unmarked_of_checkInlines (done : checkInlines check state = .ok after) :
    after.catalog.tables.map Table.unmarked = state.catalog.tables.map Table.unmarked :=
  checkInlines_keeps (motive := fun next =>
      next.catalog.tables.map Table.unmarked = state.catalog.tables.map Table.unmarked)
    done rfl fun kept step => (map_unmarked_of_checkInline step).trans kept

/-- From any moment on the tables that were declared stay, with others behind them. -/
theorem ComesTo.exists_later {script : String}
    (there : ComesTo policy (SourceLine.ofScript script) state left) :
    let finished := ofLines policy .none (SourceLine.ofScript script)
    finished.catalog.tables.map Table.unmarked =
      state.catalog.tables.map Table.unmarked ++
        (finished.catalog.tables.drop state.catalog.size).map Table.unmarked := by
  intro finished
  obtain ⟨read, after, complete, _, checked, _, whole⟩ := ofLines_checked policy script
  have grown : _ <+: (readLines policy .none state left).1.catalog.tables.map Table.unmarked :=
    map_unmarked_prefix_readLines state left
  rw [← there.readLines_eq, complete] at grown
  have final : finished.catalog.tables.map Table.unmarked = read.catalog.tables.map Table.unmarked := by
    rw [← map_unmarked_of_checkInlines checked, ← whole]
  rw [← final] at grown
  have split := List.prefix_iff_eq_append.mp grown
  rwa [List.length_map, ← List.map_drop, eq_comm] at split

/-- What a name means at a moment it means at the end, unless its table is displaced. -/
theorem ComesTo.find?_finished {script name : String} {schema : Option String} {table : Table}
    (there : ComesTo policy (SourceLine.ofScript script) state left)
    (found : state.catalog.find? name schema = some table) :
    let finished := ofLines policy .none (SourceLine.ofScript script)
    let later := finished.catalog.tables.drop state.catalog.size
    ∃ last, finished.catalog.find? name schema = some last ∧
      (last.unmarked = table.unmarked ↔ ¬table.IsDisplaced name schema later) ∧
      (table.IsDisplaced name schema later → last ∈ later ∧ last.key = ⟨none, name⟩) := by
  intro finished later
  -- Without their marks the tables of the moment are a front of those at the end.
  let unmarked (table : Table) := table.columns.map Column.unmarked
  have grown : (finished.catalog.mapColumns unmarked).tables =
      (state.catalog.mapColumns unmarked).tables ++ later.map Table.unmarked := there.exists_later
  have foundThere : (state.catalog.mapColumns unmarked).find? name schema = some table.unmarked := by
    rw [Catalog.find?_mapColumns, found]
    rfl
  by_cases displaced : table.IsDisplaced name schema later
  · obtain ⟨shown, among, key, foundLast⟩ :=
      Catalog.find?_of_isDisplaced grown foundThere (Table.isDisplaced_unmarked.mpr displaced)
    rw [Catalog.find?_mapColumns] at foundLast
    obtain ⟨last, lastFound, rfl⟩ := Option.map_eq_some_iff.mp foundLast
    obtain ⟨other, otherLater, same⟩ := List.mem_map.mp among
    have sameKey : other.unmarked.key = last.unmarked.key := congrArg Table.key same
    have sameTable : other = last := List.inj_on_of_nodup_map finished.catalog.distinct
      (List.mem_of_mem_drop otherLater) (Catalog.mem_and_named_of_find? lastFound).1 sameKey
    have bare : last.key = ⟨none, name⟩ := key
    refine ⟨last, lastFound, iff_of_false (fun kept => ?_) (not_not_intro displaced),
      fun _ => ⟨sameTable ▸ otherLater, bare⟩⟩
    have sameSchema : last.unmarked.schema = table.unmarked.schema := congrArg Table.schema kept
    exact displaced.2.1 (sameSchema.symm.trans (TableKey.mk.inj bare).1)
  · have kept := Catalog.find?_of_not_isDisplaced grown foundThere
      (mt Table.isDisplaced_unmarked.mp displaced)
    rw [Catalog.find?_mapColumns] at kept
    obtain ⟨last, lastFound, same⟩ := Option.map_eq_some_iff.mp kept
    exact ⟨last, lastFound, iff_of_true same displaced, fun gone => absurd gone displaced⟩

/-- A reference that is read on a line of its own has its ends in the tables of that moment. -/
theorem exists_found_of_added {line : SourceLine} {following rest : List SourceLine}
    {reference : Reference}
    (done : step policy .none state line following = .ok (after, rest))
    (added : after.references = state.references ++ [reference]) (standalone : reference.inline = false) :
    ∀ endpoint ∈ [reference.source, reference.target], ∃ table,
      state.catalog.find? endpoint.table endpoint.schema = some table ∧
        table.hasColumn endpoint.column = true := by
  have advances := (readKind_effect (step_eq_ok_iff.mp done).2).advances
  cases advances with
  | nothing _ references =>
      rw [references] at added
      simp at added
  | table table uses _ references _ declared =>
      rw [references, List.append_cancel_left_eq] at added
      obtain ⟨use, among, rfl⟩ : ∃ use ∈ uses, use.reference = reference :=
        List.mem_map.mp (added ▸ List.mem_singleton_self reference)
      obtain ⟨_, _, declaredBy⟩ := declared use among
      rw [declaredBy.inline] at standalone
      cases standalone
  | reference other source target _ sourceFound sourceColumn targetFound targetColumn _ references =>
      rw [references, List.append_cancel_left_eq] at added
      cases added
      simp only [List.forall_mem_cons]
      exact ⟨⟨source, sourceFound, sourceColumn⟩, ⟨target, targetFound, targetColumn⟩, by simp⟩

end ReadState

namespace Reading

/-- A name that is looked up keeps its table whatever is declared later, exactly if the table is not
displaced; if it is, the name goes over to the later table that has no schema. So each end of a reference
that is read on a line of its own means at the end of the script the table that it meant at that line, with
other marks at most, exactly if that table is not displaced. -/
theorem staysBound_iff (policy : Policy) (script : String) :
    (∀ (before after : Catalog) (later : List Table) (name : String) (schema : Option String)
      (table : Table), before.find? name schema = some table → before.declareAll later = .ok after →
        (after.find? name schema = some table ↔ ¬table.IsDisplaced name schema later) ∧
          (table.IsDisplaced name schema later →
            ∃ last ∈ later, last.key = ⟨none, name⟩ ∧ after.find? name schema = some last)) ∧
      let lines := SourceLine.ofScript script
      let finished := ReadState.ofLines policy .none lines
      ∀ (state after : ReadState) (line : SourceLine) (following rest : List SourceLine)
        (reference : Reference),
        ReadState.ComesTo policy lines state (line :: following) →
        ReadState.step policy .none state line following = .ok (after, rest) →
        after.references = state.references ++ [reference] → reference.inline = false →
        let later := finished.catalog.tables.drop state.catalog.size
        ∀ endpoint ∈ [reference.source, reference.target], ∃ table last,
          state.catalog.find? endpoint.table endpoint.schema = some table ∧
            table.hasColumn endpoint.column = true ∧
            finished.catalog.find? endpoint.table endpoint.schema = some last ∧
            (last.unmarked = table.unmarked ↔
              ¬table.IsDisplaced endpoint.table endpoint.schema later) ∧
            (table.IsDisplaced endpoint.table endpoint.schema later →
              last ∈ later ∧ last.key = ⟨none, endpoint.table⟩) := by
  refine ⟨fun before after later name schema table found declared => ?_, ?_⟩
  · have grown := Catalog.tables_of_declareAll declared
    exact ⟨Catalog.find?_eq_some_iff grown found, Catalog.find?_of_isDisplaced grown found⟩
  · intro lines finished state after line following rest reference there done added standalone later
      endpoint member
    obtain ⟨table, found, column⟩ :=
      ReadState.exists_found_of_added done added standalone endpoint member
    obtain ⟨last, lastFound, stays, goes⟩ := there.find?_finished found
    exact ⟨table, last, found, column, lastFound, stays, goes⟩

/-- A reference whose table is followed by one of the same name in another schema. -/
theorem staysBound_otherSchema :
    let lines := SourceLine.ofScript
      "Table s.t \x7b\n  a integer\n\x7d\nRef: t.a > t.a\nTable r.t \x7b\n  b integer\n\x7d"
    let state := (ReadState.readLines {} .none {} (lines.take 3)).1
    let after := (ReadState.readLines {} .none {} (lines.take 4)).1
    let finished := ReadState.ofLines {} .none lines
    let line : SourceLine := ⟨"Ref: t.a > t.a", 4, 0⟩
    let reference : Reference := { id := "ref_0", source := ⟨none, "t", "a"⟩, target := ⟨none, "t", "a"⟩ }
    let table : Table := { id := "table_0", name := "t", schema := some "s", columns := [
      { id := "col_0", name := "a", type := "integer", foreignKey := true }] }
    let other : Table := { id := "table_1", name := "t", schema := some "r", columns := [
      { id := "col_1", name := "b", type := "integer" }] }
    (after.catalog.find? "t" none = some table ∧ after.catalog.declareAll [other] = .ok finished.catalog ∧
        finished.catalog.find? "t" none = some table) ∧
      ReadState.ComesTo {} lines state (line :: lines.drop 4) ∧
      ReadState.step {} .none state line (lines.drop 4) = .ok (after, lines.drop 4) ∧
      after.references = state.references ++ [reference] ∧ reference.inline = false ∧
      ∃ early last, state.catalog.find? "t" none = some early ∧
        finished.catalog.find? "t" none = some last ∧ last.unmarked = early.unmarked := by
  intro lines state after finished line reference table other
  let header : SourceLine := ⟨"Table s.t \x7b", 1, 0⟩
  obtain ⟨begins, first, done, added, found, declared, alone⟩ :
      lines = header :: lines.drop 1 ∧
        ReadState.step {} .none {} header (lines.drop 1) = .ok (state, line :: lines.drop 4) ∧
        ReadState.step {} .none state line (lines.drop 4) = .ok (after, lines.drop 4) ∧
        after.references = state.references ++ [reference] ∧
        after.catalog.find? "t" none = some table ∧
        after.catalog.declareAll [other] = .ok finished.catalog ∧
        ⟨none, "t"⟩ ∉ (finished.catalog.tables.drop state.catalog.size).map Table.key := by
    decide +kernel
  have begun : ReadState.ComesTo {} lines {} (header :: lines.drop 1) := by
    rw [← begins]
    exact .start
  have there := begun.step first
  obtain ⟨names, ends⟩ := staysBound_iff {}
    "Table s.t \x7b\n  a integer\n\x7d\nRef: t.a > t.a\nTable r.t \x7b\n  b integer\n\x7d"
  obtain ⟨early, last, earlyFound, _, lastFound, stays, _⟩ :=
    ends state after line _ _ reference there done added rfl reference.source (by simp)
  obtain ⟨keeps, _⟩ := names after.catalog finished.catalog [other] "t" none table found declared
  have kept : ¬early.IsDisplaced "t" none (finished.catalog.tables.drop state.catalog.size) :=
    fun displaced => alone displaced.2.2
  exact ⟨⟨found, declared, keeps.mpr (by decide)⟩, there, done, added, rfl, early, last, earlyFound,
    lastFound, stays.mpr kept⟩

/-- A reference that is read without an error, and a table that takes its name over: without a schema the
name meant the table of the schema until then. -/
theorem displaced_laterTable :
    let lines := SourceLine.ofScript
      "Table s.t \x7b\n  a integer\n\x7d\nRef: t.a > t.a\nTable t \x7b\n  b integer\n\x7d"
    let accepted := (ReadState.readLines {} .none {} (lines.take 4)).1
    let finished := ReadState.ofLines {} .none lines
    let reference : Reference := { id := "ref_0", source := ⟨none, "t", "a"⟩, target := ⟨none, "t", "a"⟩ }
    let later : Table := { id := "table_1", name := "t", columns := [
      { id := "col_1", name := "b", type := "integer" }] }
    finished.journal = [] ∧ accepted.references = [reference] ∧ finished.references = [reference] ∧
      accepted.catalog.declareAll [later] = .ok finished.catalog ∧
      (accepted.catalog.find? "t" none).map Table.qualifiedName = some "s.t" ∧
      (finished.catalog.find? "t" none).map Table.qualifiedName = some "t" := by
  decide +kernel

end Reading

end TableScript
