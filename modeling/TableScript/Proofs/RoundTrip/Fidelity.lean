import TableScript.Proofs.RoundTrip.Inline
import TableScript.Proofs.RoundTrip.Script
import TableScript.Proofs.Write.OneLine

/-! Nothing of an expressible schema is lost when it is written and read back. Its tables and its inline
references are back when the last table is read; from then on every line brings back the next reference
and marks the column where it starts. -/

namespace TableScript

variable {layout : Layout} {now : Timestamp} {schema : Schema} {table : Table}
  {reference : Reference} {references : List Reference} {catalog : Catalog}

theorem modifyFirst_eq_map {columns : List Column} (distinct : (columns.map Column.name).Nodup)
    (name : String) (change : Column → Column) :
    modifyFirst (·.name == name) change columns =
      columns.map fun column => if column.name = name then change column else column := by
  induction columns with
  | nil => rfl
  | cons column rest ih =>
      rw [List.map_cons, List.nodup_cons] at distinct
      obtain ⟨absent, others⟩ := distinct
      by_cases same : column.name = name
      · have kept : (rest.map fun other => if other.name = name then change other else other) =
            rest.map id := by
          refine List.map_congr_left fun other member => if_neg fun sameOther => absent ?_
          rw [same, ← sameOther]
          exact List.mem_map_of_mem member
        simp [modifyFirst, same, kept]
      · simp [modifyFirst, same, ih others]

theorem Table.map_name_numbered (table : Table) (references : List Reference)
    (number columnNumber : Nat) :
    ((table.settled references).numbered number columnNumber).columns.map Column.name =
      table.columns.map Column.name := by
  have names : (table.columns.zipIdx columnNumber).map (Column.name ∘ Prod.fst) =
      table.columns.map Column.name := by
    rw [← List.map_map, List.zipIdx_map_fst]
  simp only [numbered, settled, List.zipIdx_map, List.map_map]
  exact names

theorem map_signature_numberTables (tables : List Table) (references : List Reference)
    (number columnNumber : Nat) :
    (numberTables (tables.map (·.settled references)) number columnNumber).map Table.signature =
      tables.map Table.signature := by
  induction tables generalizing number columnNumber with
  | nil => rfl
  | cons table rest ih =>
      have first : ((table.settled references).numbered number columnNumber).signature =
          table.signature :=
        Prod.ext rfl (table.map_name_numbered references number columnNumber)
      rw [List.map_cons, numberTables, List.map_cons, List.map_cons, first, ih]

/-- The table with the column marked where a reference starts, if the key is that of the table. -/
def Table.marked (table : Table) (key : TableKey) (column : String) : Table :=
  table.withColumns fun table =>
    if table.key = key then
      modifyFirst (·.name == column) (fun found => { found with foreignKey := true }) table.columns
    else table.columns

theorem Table.IsExpressible.marked_eq (expressible : table.IsExpressible) {key : TableKey}
    (means : table.key = key ↔ table.name = reference.source.table) (number columnNumber : Nat) :
    ((table.settled references).numbered number columnNumber).marked key reference.source.column =
      (table.settled (references ++ [reference])).numbered number columnNumber := by
  have distinct : (((table.settled references).numbered number columnNumber).columns.map
      Column.name).Nodup := by
    rw [table.map_name_numbered]
    exact expressible.distinct
  have sameKey : ((table.settled references).numbered number columnNumber).key = table.key := rfl
  have columns : (if table.key = key then
      modifyFirst (·.name == reference.source.column)
        (fun found => { found with foreignKey := true })
        ((table.settled references).numbered number columnNumber).columns
      else ((table.settled references).numbered number columnNumber).columns) =
      ((table.settled (references ++ [reference])).numbered number columnNumber).columns := by
    by_cases named : table.name = reference.source.table
    · rw [if_pos (means.mpr named), modifyFirst_eq_map distinct]
      simp only [numbered, settled, List.zipIdx_map, List.map_map]
      refine List.map_congr_left fun pair _ => ?_
      by_cases column : pair.1.name = reference.source.column
      · simp [Column.numbered, Reference.startsAt, named, column]
      · have other : ¬reference.source.column = pair.1.name := fun same => column same.symm
        simp [Column.numbered, Reference.startsAt, column, other]
    · have other : (reference.source.table == table.name) = false :=
        beq_eq_false_iff_ne.mpr fun same => named same.symm
      rw [if_neg fun key => named (means.mp key)]
      simp only [numbered, settled, List.zipIdx_map, List.map_map]
      refine List.map_congr_left fun pair _ => ?_
      simp [Reference.startsAt, other]
  rw [marked, withColumns, sameKey, columns]
  rfl

theorem map_marked_numberTables {tables : List Table}
    (expressible : ∀ table ∈ tables, table.IsExpressible) {key : TableKey}
    (means : ∀ table ∈ tables, table.key = key ↔ table.name = reference.source.table)
    (number columnNumber : Nat) :
    (numberTables (tables.map (·.settled references)) number columnNumber).map
        (·.marked key reference.source.column) =
      numberTables (tables.map (·.settled (references ++ [reference]))) number columnNumber := by
  induction tables generalizing number columnNumber with
  | nil => rfl
  | cons table rest ih =>
      obtain ⟨first, others⟩ := List.forall_mem_cons.mp expressible
      obtain ⟨firstMeans, otherMeans⟩ := List.forall_mem_cons.mp means
      have length : (table.settled references).columns.length =
          (table.settled (references ++ [reference])).columns.length := by
        simp [Table.settled]
      rw [List.map_cons, List.map_cons, numberTables, numberTables, List.map_cons,
        first.marked_eq firstMeans, ih others otherMeans, length]

/-- What was read when all tables and some references are back. -/
structure ReadState.Restores (state : ReadState) (schema : Schema) (done : List Reference) :
    Prop where
  tables : state.catalog.tables = numberTables (schema.tables.map (·.settled done)) 0 0
  references : state.references = numberReferences done 0
  numbered : state.referencesNumbered = done.length
  errors : state.journal.errors = []

theorem Catalog.isSome_find? (catalog : Catalog) {endpoint : Endpoint}
    (declared : endpoint.IsDeclared catalog.tables) :
    (catalog.find? endpoint.table endpoint.schema).isSome = true := by
  obtain ⟨table, member, name, schema, _⟩ := declared
  unfold find?
  cases qualifier : endpoint.schema with
  | some written =>
      have key : table.key = ⟨some written, endpoint.table⟩ := by
        rw [Table.key, name, schema written qualifier]
      rw [get?, List.find?_isSome]
      exact ⟨table, member, beq_iff_eq.mpr key⟩
  | none =>
      have named : (catalog.tables.find? (·.name == endpoint.table)).isSome = true := by
        rw [List.find?_isSome]
        exact ⟨table, member, beq_iff_eq.mpr name⟩
      dsimp only
      cases catalog.get? ⟨none, endpoint.table⟩ with
      | some exact => rfl
      | none => exact named

namespace Schema.IsExpressible

theorem distinct_keys (expressible : schema.IsExpressible) :
    (schema.tables.map Table.key).Nodup := by
  have names : (schema.tables.map Table.key).map TableKey.name = schema.tables.map Table.name := by
    rw [List.map_map]
    rfl
  refine List.Nodup.of_map TableKey.name ?_
  rw [names]
  exact expressible.distinct

theorem isWordy (expressible : schema.IsExpressible) {endpoint : Endpoint}
    (declared : endpoint.IsDeclared schema.tables) (column : IsWordText endpoint.column.toList) :
    endpoint.IsWordy := by
  have words : ∀ {name : String}, IsPlainName name → IsWordText name.toList := fun plain =>
    ⟨plain.isKey.entry.nonempty, fun c member =>
      Lexeme.isWord_of_isIdentifierPart (plain.isIdentifierPart c member)⟩
  obtain ⟨table, member, name, qualified, _⟩ := declared
  have form := expressible.tables table member
  refine ⟨fun written given => ?_, ?_, column⟩
  · exact words (form.qualified written (qualified written given))
  · rw [← name]
    exact words form.named

theorem isPlain (expressible : schema.IsExpressible) (listed : reference ∈ schema.references)
    (standalone : reference.inline = false) : reference.IsPlain := by
  have form := expressible.standalone reference listed standalone
  exact ⟨expressible.isWordy form.source.1 form.source.2,
    expressible.isWordy form.target.1 form.target.2, form.named, form.deletes, form.updates⟩

/-- Where the same tables are declared, a reference between declared columns resolves. -/
theorem resolves (expressible : schema.IsExpressible) {written : ReferenceLine}
    (source : written.source.IsDeclared schema.tables)
    (target : written.target.IsDeclared schema.tables)
    (same : schema.tables.map Table.signature = catalog.tables.map Table.signature) :
    written.Resolves catalog := by
  have found : ∀ {endpoint : Endpoint}, endpoint.IsDeclared schema.tables →
      ∃ table, Catalog.find? ⟨schema.tables, expressible.distinct_keys⟩ endpoint.table
        endpoint.schema = some table ∧ table.hasColumn endpoint.column = true := by
    intro endpoint declared
    obtain ⟨table, read⟩ := Option.isSome_iff_exists.mp
      (Catalog.isSome_find? ⟨schema.tables, expressible.distinct_keys⟩ declared)
    obtain ⟨member, name, _⟩ := Catalog.mem_and_named_of_find? read
    obtain ⟨other, otherMember, otherName, _, column⟩ := declared
    have one := expressible.eq_of_name otherMember member (otherName.trans name.symm)
    exact ⟨table, read, one ▸ column⟩
  obtain ⟨sourceTable, sourceFound, sourceColumn⟩ := found source
  have resolved : written.Resolves ⟨schema.tables, expressible.distinct_keys⟩ :=
    ⟨sourceTable, ReferenceLine.resolve_eq_ok_iff.mpr ⟨sourceFound, sourceColumn, found target⟩⟩
  exact resolved.congr same

theorem key_iff (expressible : schema.IsExpressible) {name : String} {qualifier : Option String}
    {other : Table} (same : schema.tables.map Table.signature = catalog.tables.map Table.signature)
    (found : catalog.find? name qualifier = some table) (member : other ∈ schema.tables) :
    other.key = table.key ↔ other.name = name := by
  obtain ⟨listed, named, _⟩ := Catalog.mem_and_named_of_find? found
  have key : table.signature ∈ schema.tables.map Table.signature := by
    rw [same]
    exact List.mem_map_of_mem listed
  obtain ⟨declared, declaredMember, signature⟩ := List.mem_map.mp key
  have declaredKey : declared.key = table.key := (Prod.mk.inj signature).1
  have declaredName : declared.name = table.name := (TableKey.mk.inj declaredKey).2
  constructor
  · intro sameKey
    exact (TableKey.mk.inj sameKey).2.trans named
  · intro sameName
    have one := expressible.eq_of_name member declaredMember
      (sameName.trans (named.symm.trans declaredName.symm))
    rw [one, declaredKey]

end Schema.IsExpressible

namespace ReadState

variable {state : ReadState} {line : SourceLine}

/-- One line brings back one reference. -/
theorem Restores.readReference (restores : state.Restores schema references)
    (expressible : schema.IsExpressible) (listed : reference ∈ schema.references)
    (standalone : reference.inline = false) (text : line.text = reference.lineText) :
    (ReadState.readReference {} state line).Restores schema (references ++ [reference]) := by
  have plain := expressible.isPlain listed standalone
  have form := expressible.standalone reference listed standalone
  have signatures : schema.tables.map Table.signature =
      state.catalog.tables.map Table.signature := by
    rw [restores.tables, map_signature_numberTables]
  obtain ⟨written, read, source, target, given⟩ := plain.exists_read standalone
  rw [← text] at read
  have resolves : written.Resolves state.catalog :=
    expressible.resolves (by rw [source]; exact form.source.1) (by rw [target]; exact form.target.1)
      signatures
  obtain ⟨table, resolved⟩ := resolves
  obtain ⟨found, _⟩ := ReferenceLine.resolve_eq_ok_iff.mp resolved
  rw [source] at found
  have means : ∀ other ∈ schema.tables, other.key = table.key ↔
      other.name = reference.source.table :=
    fun other member => expressible.key_iff signatures found member
  have errors : (ReadState.readReference {} state line).journal.errors = [] :=
    errors_readReference.mpr ⟨restores.errors, written, read, table, resolved⟩
  rw [readReference_resolved read resolved] at errors ⊢
  refine ⟨?_, ?_, ?_, errors⟩
  · rw [withReference, source]
    exact (congrArg _ restores.tables).trans
      (map_marked_numberTables expressible.tables means 0 0)
  · rw [withReference, restores.references, restores.numbered, given]
    simp [numberReferences, List.zipIdx_append, Reference.numbered]
  · simp [withReference, restores.numbered]

theorem Restores.foldl_readReference (restores : state.Restores schema references)
    (expressible : schema.IsExpressible) {more : List Reference}
    (listed : ∀ reference ∈ more, reference ∈ schema.references ∧ reference.inline = false)
    {lines : List SourceLine} (texts : lines.map SourceLine.text = more.map Reference.lineText) :
    (lines.foldl (ReadState.readReference {}) state).Restores schema (references ++ more) := by
  induction lines generalizing state references more with
  | nil =>
      obtain rfl := List.map_eq_nil_iff.mp texts.symm
      rwa [List.foldl_nil, List.append_nil]
  | cons line lines ih =>
      obtain ⟨reference, more, rfl, text, texts⟩ := List.map_eq_cons_iff.mp texts.symm
      obtain ⟨first, others⟩ := List.forall_mem_cons.mp listed
      have next := restores.readReference expressible first.1 first.2 text.symm
      rw [List.foldl_cons]
      simpa using ih next others texts.symm

end ReadState

theorem Schema.IsExpressible.steady (expressible : schema.IsExpressible) (layout : Layout) :
    schema.IsSteady layout where
  tables := fun table member => (expressible.tables table member).steady layout
  inline := by
    intro reference listed written
    rw [expressible.writesInline_eq listed] at written
    exact (expressible.inline reference listed written).target
  standalone := by
    intro reference member
    rw [expressible.standaloneReferences_eq] at member
    obtain ⟨listed, standalone⟩ := List.mem_filter.mp member
    exact (expressible.isPlain listed (by simpa using standalone)).onOwnLine

/-- An expressible schema is written, and what is written is read without an error as the same tables
and references, numbered anew. -/
theorem Reading.ofScript_ofSchema (layout : Layout) (now : Timestamp)
    (expressible : schema.IsExpressible) (comments : layout.comments = true)
    (properties : layout.properties = true) (indented : layout.checkIndent = .ok ())
    (framed : layout.metadata = true → '\n' ∉ now.toList ∧ schema.metadata.IsOneLine) :
    let writing := Writing.ofSchema layout now schema
    let reading := Reading.ofScript {} writing.text
    writing.succeeded = true ∧ reading.errors = [] ∧
      reading.tables = numberTables (schema.tables.map (·.settled schema.references)) 0 0 ∧
      reading.references = numberReferences schema.references 0 := by
  have writable : ∀ table ∈ schema.tables, table.Writable :=
    fun table member => (expressible.tables table member).writable
  obtain ⟨succeeded, text⟩ := Writing.ofSchema_eq layout now writable indented
  obtain ⟨tabled, lines, declares, texts, complete⟩ := Reading.exists_reread writable
    expressible.distinct_keys
    (Write.oneLine_scriptBlocks now writable (expressible.steady layout) framed)
  have inline : ∀ reference ∈ schema.inlineInOrder,
      reference.inline = true ∧ reference.IsPlainInline := by
    intro reference member
    obtain ⟨listed, inline, _⟩ := Schema.mem_inlineInOrder_iff.mp member
    exact ⟨inline, expressible.inline reference listed inline⟩
  have restored : tabled.Restores schema schema.inlineInOrder := by
    have drafts := expressible.tableDrafts_eq layout
    have errors := declares.errors
    refine ⟨?_, ?_, ?_, ?_⟩
    · rw [declares.declared, rereadTables_eq expressible.tables
        (fun table _ column _ => expressible.isWordy_target)
        (fun table member column among => expressible.any_startsAt member among) comments properties]
      rfl
    · rw [declares.references, drafts, references_ofReference inline]
      rfl
    · rw [declares.referencesNumbered, drafts, List.length_map]
      exact Nat.zero_add _
    · refine errors.mpr ⟨rfl, fun table member column among => ?_⟩
      have steady := ((expressible.tables table member).columns column among).steady layout
      exact steady.rereadsFaultless expressible.isWordy_target
  rw [expressible.standaloneReferences_eq] at texts
  have standalone : ∀ reference ∈ schema.references.filter (fun reference => !reference.inline),
      reference ∈ schema.references ∧ reference.inline = false := by
    intro reference member
    simpa using List.mem_filter.mp member
  have whole := restored.foldl_readReference expressible standalone texts
  rw [← expressible.ordered, ← complete, ← text] at whole
  exact ⟨succeeded, whole.errors, whole.tables, whole.references⟩

/-- Orders and their lines. A name and some values need quotes, one reference leads out of the schema. -/
def Schema.orders : Schema where
  tables := [
    { id := "1"
      name := "orders"
      schema := some "shop"
      columns := [
        { id := "2", name := "id", type := "integer", primaryKey := true, note := some "it's\nkept" },
        { id := "3", name := "buyer id", type := "varchar(20)", default := some "now()"
          properties := [("owner", .text "sales, \"east\""), ("indexed", .flag true)] }]
      note := some "one [per] buyer" },
    { id := "4"
      name := "lines"
      columns := [{ id := "5", name := "order_id", type := "integer" }] }]
  references := [
    { id := "6"
      source := ⟨some "shop", "orders", "buyer id"⟩
      target := ⟨none, "people", "id"⟩
      inline := true },
    { id := "7"
      source := ⟨none, "lines", "order_id"⟩
      target := ⟨some "shop", "orders", "id"⟩
      cardinality := .manyToOne
      name := some "of_order"
      onDelete := some "set null" }]
  metadata := .fresh "then"

theorem Reading.ofScript_ofSchema_orders :
    Schema.orders.IsExpressible ∧
      (Reading.ofScript {} (Writing.ofSchema {} "now" Schema.orders).text).references =
        numberReferences Schema.orders.references 0 := by
  have expressible : Schema.orders.IsExpressible := by decide +kernel
  have framed : ('\n' ∉ "now".toList) ∧ Schema.orders.metadata.IsOneLine := by decide +kernel
  obtain ⟨_, _, _, references⟩ := Reading.ofScript_ofSchema {} "now" expressible rfl rfl
    (by decide) fun _ => framed
  exact ⟨expressible, references⟩

end TableScript
