import Mathlib.Data.List.Pairwise
import TableScript.Proofs.Read.Complaint
import TableScript.Proofs.Read.Sound.Basic

/-! Looking after the targets of inline references, reference by reference. Each one that leads nowhere
gives one complaint, in the order of declaration. Where it is dropped as well, the others do not notice:
they all stay, and no target is found or lost by it, since only marks change. -/

namespace TableScript

/-- The table without the marks of the columns that have these identifiers. -/
def Table.clearing (table : Table) (ids : List String) : Table :=
  table.withColumns fun table => table.columns.map fun column =>
    if column.id ∈ ids then { column with foreignKey := false } else column

theorem isMarking_clearing (ids : List String) : IsMarking fun table =>
    table.columns.map fun column =>
      if column.id ∈ ids then { column with foreignKey := false } else column := by
  intro table
  rw [List.map_map]
  refine List.map_congr_left fun column _ => ?_
  rw [Function.comp_apply]
  split <;> rfl

theorem map_signature_clearing (tables : List Table) (ids : List String) :
    (tables.map (·.clearing ids)).map Table.signature = tables.map Table.signature :=
  (isMarking_clearing ids).map_signature tables

theorem Table.clearing_nil (table : Table) : table.clearing [] = table := by
  simp [clearing, withColumns]

/-- A mark that is set or cleared behind others. It can only be set where it was before. -/
theorem Table.map_clearing {table : Table} {id : String} (ids : List String) (mark : Bool)
    (marked : ∀ column ∈ table.columns, column.id = id → column.foreignKey = true) :
    (table.clearing ids).withColumns (fun table => table.columns.map fun column =>
        if column.id = id then { column with foreignKey := mark } else column) =
      table.clearing (if mark then ids.filter (· ≠ id) else id :: ids) := by
  simp only [clearing, withColumns, List.map_map]
  congr 1
  refine List.map_congr_left fun column inside => ?_
  rw [Function.comp_apply]
  by_cases own : column.id = id
  · have kept : { column with foreignKey := true } = column := by rw [← marked column inside own]
    subst own
    cases mark <;> by_cases before : column.id ∈ ids <;> simp [before, kept]
  · cases mark <;> by_cases before : column.id ∈ ids <;> simp [own, before]

/-- Columns are told apart by their identifiers, also across tables. -/
theorem Table.eq_of_columnId {tables : List Table}
    (distinct : ((tables.flatMap Table.columns).map Column.id).Nodup) {table other : Table}
    (member : table ∈ tables) (otherMember : other ∈ tables) {column otherColumn : Column}
    (inside : column ∈ table.columns) (otherInside : otherColumn ∈ other.columns)
    (same : column.id = otherColumn.id) : table = other ∧ column = otherColumn := by
  have whole : column = otherColumn :=
    List.inj_on_of_nodup_map distinct (List.mem_flatMap.mpr ⟨table, member, inside⟩)
      (List.mem_flatMap.mpr ⟨other, otherMember, otherInside⟩) same
  have apart := (List.nodup_flatMap.mp (List.Nodup.of_map _ distinct)).2
  refine ⟨?_, whole⟩
  by_contra different
  have symmetric : Std.Symm (Function.onFun List.Disjoint Table.columns) :=
    ⟨fun _ _ apart _ first second => apart second first⟩
  have disjoint := apart.forall member otherMember different
  exact disjoint inside (whole ▸ otherInside)

namespace ReadState

variable {state after before : ReadState} {use : InlineUse} {gone uses : List InlineUse}
  {cleared : List String}

/-- The state with a warning for every inline reference that leads nowhere. -/
theorem foldlM_checkInline_warn (state : ReadState) (uses : List InlineUse) :
    uses.foldlM (checkInline .warn) state = .ok { state with
      journal := state.journal ++ (uses.filter (·.reference.target.isMissing state.catalog)).map
        (·.complaint state.catalog .warning) } := by
  induction uses generalizing state with
  | nil => simp [pure, Except.pure]
  | cons use uses ih =>
      rw [List.foldlM_cons]
      cases missing : use.reference.target.isMissing state.catalog with
      | false =>
          rw [checkInline_of_found .warn missing]
          simp only [List.filter_cons, missing, Bool.false_eq_true, if_false]
          exact ih state
      | true =>
          rw [checkInline_of_isMissing .warn missing]
          simp only [List.filter_cons, missing, if_true, List.map_cons]
          have others := ih (state.record (use.complaint state.catalog .warning))
          simp only [journal_record, catalog_record, List.append_assoc, List.singleton_append] at others
          exact others

theorem eq_of_dropInline (done : state.dropInline use = .ok after) :
    after = { state with
      references := state.references.erase use.reference
      catalog := state.catalog.setForeignKey use.columnId
        ((state.references.erase use.reference).any (·.source == use.reference.source)) } := by
  unfold dropInline at done
  split at done
  · cases done
    rfl
  · cases done

/-- References tell columns apart by their sources, as identifiers do. -/
def TellsApart (state : ReadState) : Prop :=
  ∀ first ∈ state.inlineUses, ∀ second ∈ state.inlineUses,
    first.columnId = second.columnId ↔ first.reference.source = second.reference.source

/-- The state after the inline references that are gone were dropped, one after the other, with the
columns that have lost their mark by it. Where columns are told apart by the sources of references, these
are the ones at which no other reference starts. -/
structure Dropped (before : ReadState) (gone : List InlineUse) (cleared : List String)
    (after : ReadState) : Prop where
  journal : after.journal = before.journal ++ gone.map (·.complaint before.catalog .error)
  references : after.references =
    before.references.filter fun reference => reference ∉ gone.map InlineUse.reference
  inlineUses : after.inlineUses = before.inlineUses
  tables : after.catalog.tables = before.catalog.tables.map (·.clearing cleared)
  within : cleared ⊆ gone.map InlineUse.columnId
  exact : before.TellsApart → gone ⊆ before.inlineUses → ∀ use ∈ gone,
    use.columnId ∈ cleared ↔
      ∀ reference ∈ after.references, reference.source ≠ use.reference.source

theorem Dropped.initial (state : ReadState) : Dropped state [] [] state where
  journal := by simp
  references := by simp
  inlineUses := rfl
  tables := by
    have kept : (fun table : Table => table.clearing []) = id := funext Table.clearing_nil
    rw [kept, List.map_id]
  within := by simp
  exact := by simp

namespace Dropped

theorem signatures (dropped : Dropped before gone cleared after) :
    after.catalog.tables.map Table.signature = before.catalog.tables.map Table.signature := by
  rw [dropped.tables]
  exact map_signature_clearing _ _

/-- The columns that have lost their mark when one more reference is dropped. -/
def clearedWith (state : ReadState) (cleared : List String) (use : InlineUse) : List String :=
  if (state.references.erase use.reference).any (·.source == use.reference.source) then
    cleared.filter (· ≠ use.columnId)
  else use.columnId :: cleared

theorem mem_clearedWith_self :
    use.columnId ∈ clearedWith state cleared use ↔
      ∀ reference ∈ state.references.erase use.reference,
        reference.source ≠ use.reference.source := by
  unfold clearedWith
  split
  · rename_i others
    obtain ⟨reference, there, source⟩ := List.any_eq_true.mp others
    have notAll : ¬∀ reference ∈ state.references.erase use.reference,
        reference.source ≠ use.reference.source :=
      fun elsewhere => elsewhere reference there (beq_iff_eq.mp source)
    simpa using notAll
  · rename_i alone
    have elsewhere : ∀ reference ∈ state.references.erase use.reference,
        reference.source ≠ use.reference.source :=
      fun reference there source =>
        alone (List.any_eq_true.mpr ⟨reference, there, beq_iff_eq.mpr source⟩)
    simpa using elsewhere

theorem mem_clearedWith_of_ne {id : String} (other : id ≠ use.columnId) :
    id ∈ clearedWith state cleared use ↔ id ∈ cleared := by
  unfold clearedWith
  split <;> simp [other]

/-- Dropping a reference takes away nothing that starts elsewhere. -/
theorem startsNowhere_erase_iff {reference : Reference} {source : Endpoint}
    (elsewhere : reference.source ≠ source) {references : List Reference} :
    (∀ other ∈ references.erase reference, other.source ≠ source) ↔
      ∀ other ∈ references, other.source ≠ source := by
  constructor
  · intro absent other there same
    have differs : other ≠ reference := fun equal => elsewhere (equal ▸ same)
    exact absent other ((List.mem_erase_of_ne differs).mpr there) same
  · exact fun absent other there => absent other (List.mem_of_mem_erase there)

theorem drop (dropped : Dropped before gone cleared state) (distinct : before.references.Nodup)
    (marked : ∀ table ∈ before.catalog.tables, ∀ column ∈ table.columns,
      column.id = use.columnId → column.foreignKey = true)
    (done : (state.record (use.complaint state.catalog .error)).dropInline use = .ok after) :
    Dropped before (gone ++ [use]) (clearedWith state cleared use) after := by
  rw [eq_of_dropInline done]
  constructor
  · simp only [journal_record, dropped.journal, use.complaint_congr .error dropped.signatures,
      List.map_append, List.map_singleton, List.append_assoc]
  · simp only [references_record]
    rw [dropped.references, List.Nodup.erase_eq_filter (distinct.filter _), List.filter_filter]
    refine List.filter_congr fun reference _ => ?_
    by_cases same : reference = use.reference <;> simp [same]
  · exact dropped.inlineUses
  · have tables := dropped.tables
    simp only [catalog_record, references_record, Catalog.setForeignKey, Catalog.mapColumns, tables,
      List.map_map]
    exact List.map_congr_left fun table member => Table.map_clearing cleared _ (marked table member)
  · intro id member
    rw [List.map_append, List.map_singleton]
    by_cases own : id = use.columnId
    · simp [own]
    · exact List.mem_append_left _ (dropped.within ((mem_clearedWith_of_ne own).mp member))
  · intro apart among other otherGone
    have useIn : use ∈ before.inlineUses := among (by simp)
    have goneIn : gone ⊆ before.inlineUses := fun use member => among (by simp [member])
    by_cases sameColumn : other.columnId = use.columnId
    · rw [sameColumn, (apart other (among otherGone) use useIn).mp sameColumn]
      exact mem_clearedWith_self
    · have elsewhere : use.reference.source ≠ other.reference.source := fun same =>
        sameColumn ((apart other (among otherGone) use useIn).mpr same.symm)
      have earlier : other ∈ gone := by
        rcases List.mem_append.mp otherGone with old | new
        · exact old
        · exact absurd (by rw [List.mem_singleton.mp new]) sameColumn
      calc other.columnId ∈ clearedWith state cleared use
          ↔ other.columnId ∈ cleared := mem_clearedWith_of_ne sameColumn
        _ ↔ ∀ reference ∈ state.references, reference.source ≠ other.reference.source :=
            dropped.exact apart goneIn other earlier
        _ ↔ _ := (startsNowhere_erase_iff elsewhere).symm

end Dropped

theorem foldlM_checkInline_fail (dropped : Dropped before gone cleared state)
    (distinct : before.references.Nodup)
    (marked : ∀ use ∈ uses, ∀ table ∈ before.catalog.tables, ∀ column ∈ table.columns,
      column.id = use.columnId → column.foreignKey = true)
    (done : uses.foldlM (checkInline .fail) state = .ok after) :
    ∃ cleared, Dropped before
      (gone ++ uses.filter (·.reference.target.isMissing before.catalog)) cleared after := by
  induction uses generalizing gone cleared state with
  | nil =>
      cases done
      exact ⟨cleared, by simpa using dropped⟩
  | cons use uses ih =>
      have others := fun other member => marked other (List.mem_cons_of_mem use member)
      have sameTarget : use.reference.target.isMissing state.catalog =
          use.reference.target.isMissing before.catalog :=
        Endpoint.isMissing_congr dropped.signatures
      rw [List.foldlM_cons] at done
      cases missing : use.reference.target.isMissing before.catalog with
      | false =>
          rw [checkInline_of_found .fail (sameTarget.trans missing)] at done
          simp only [List.filter_cons, missing, Bool.false_eq_true, if_false]
          exact ih dropped others done
      | true =>
          rw [checkInline_of_isMissing .fail (sameTarget.trans missing)] at done
          dsimp only at done
          cases first : (state.record (use.complaint state.catalog .error)).dropInline use with
          | error failure =>
              rw [first] at done
              cases done
          | ok next =>
              rw [first] at done
              have more := dropped.drop distinct (marked use List.mem_cons_self) first
              obtain ⟨last, all⟩ := ih more others done
              refine ⟨last, ?_⟩
              simpa [List.filter_cons, missing] using all

end ReadState

end TableScript
