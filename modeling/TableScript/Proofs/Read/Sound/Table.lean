import TableScript.Proofs.Read.Sound.Basic
import TableScript.Proofs.Read.Table

namespace TableScript.ReadState

variable {policy : Policy} {state : ReadState} {front : List Table} {table : Table}
  {line : SourceLine} {header : TableHeader} {following : List SourceLine}

/-- What a table in progress keeps while the items of its body are read. -/
structure Keeps (front : List Table) (before after : ReadState × Table) : Prop where
  sound : after.1.Sound (front ++ [after.2])
  catalog : after.1.catalog = before.1.catalog
  key : after.2.key = before.2.key

theorem Keeps.trans {before middle after : ReadState × Table} (first : Keeps front before middle)
    (second : Keeps front middle after) : Keeps front before after :=
  ⟨second.sound, second.catalog.trans first.catalog, second.key.trans first.key⟩

theorem takeBodyItem_keeps (policy : Policy) (sound : state.Sound (front ++ [table]))
    {item : BodyItem} (oneLine : '\n' ∉ item.line.text.toList) :
    Keeps front (state, table) (takeBodyItem policy (state, table) item) := by
  cases item with
  | column line =>
      rcases readColumn_cases policy state table line with
        ⟨declared, read, accepted, taken⟩ | ⟨problem, refusal, reported⟩
      · simp only [takeBodyItem, taken]
        exact ⟨sound.withColumn read accepted oneLine, rfl, rfl⟩
      · simp only [takeBodyItem, reported]
        exact ⟨sound.report refusal.grave.2, rfl, rfl⟩
  | note line =>
      simp only [takeBodyItem, readNote]
      cases noteText? line.text.toList with
      | none => exact ⟨sound.report (by simp [Problem.kind]), rfl, rfl⟩
      | some text =>
          cases text with
          | nil => exact ⟨sound.report (by simp [Problem.kind]), rfl, rfl⟩
          | cons c text => exact ⟨sound.replace rfl rfl rfl, rfl, rfl⟩
  | indexes line closed =>
      have noticed := sound.noticeBlock .indexes LineKind.indexes.featureTag line
      have catalog : ∀ tag, (state.noticeBlock .indexes tag line).catalog = state.catalog := by
        intro tag
        simp only [noticeBlock, report_eq_adding, catalog_adding, addFeature]
        split <;> rfl
      cases closed with
      | true => exact ⟨noticed, catalog _, rfl⟩
      | false => exact ⟨noticed.report (by simp [Problem.kind]), catalog _, rfl⟩
  | other line => exact ⟨sound.report (by simp [Problem.kind]), rfl, rfl⟩

theorem foldl_takeBodyItem_keeps (policy : Policy) (sound : state.Sound (front ++ [table]))
    {items : List BodyItem} (oneLine : ∀ item ∈ items, '\n' ∉ item.line.text.toList) :
    Keeps front (state, table) (items.foldl (takeBodyItem policy) (state, table)) := by
  induction items generalizing state table with
  | nil => exact ⟨sound, rfl, rfl⟩
  | cons item items ih =>
      have first := takeBodyItem_keeps policy sound (oneLine item List.mem_cons_self)
      rw [List.foldl_cons]
      exact first.trans
        (ih first.sound fun other member => oneLine other (List.mem_cons_of_mem item member))

theorem readBody_keeps (policy : Policy) (line : SourceLine) (header : TableHeader)
    (sound : state.Sound (front ++ [table]))
    (oneLine : ∀ line ∈ following, '\n' ∉ line.text.toList) :
    Keeps front (state, table) (readBody policy line header following (state, table)).1 := by
  unfold readBody
  cases begun : header.bodyLines? following with
  | none => exact ⟨sound, rfl, rfl⟩
  | some lines =>
      have itemLines : ∀ item ∈ (Body.ofLines lines).items, '\n' ∉ item.line.text.toList :=
        fun item member =>
          oneLine _ ((TableHeader.bodyLines?_suffix begun).subset (Body.line_mem member))
      have items := foldl_takeBodyItem_keeps policy sound itemLines
      dsimp only
      cases (Body.ofLines lines).closed with
      | true => exact items
      | false => exact ⟨items.sound.report (by simp [Problem.kind]), items.catalog, items.key⟩

theorem Sound.withHeader (policy : Policy) (line : SourceLine) (sound : state.Sound front)
    (allowed : header.nameProblems state.catalog = []) (oneLine : '\n' ∉ header.name) :
    (state.withHeader policy line header).Sound (front ++ [header.table state.tablesNumbered]) := by
  obtain ⟨named, qualified, _⟩ := TableHeader.isIdentifier_of_nameProblems_eq_nil allowed
  obtain ⟨id, key, columns⟩ := header.table_kept state.tablesNumbered
  obtain ⟨schema, name⟩ := TableKey.mk.inj key
  have reported := sound.adding (header.diagnostics policy line)
    fun diagnostic => TableHeader.kind_of_mem_diagnostics
  refine { reported with
    wellFormed := ?_
    tableIds := ?_
    columnIds := ?_
    inline := fun reference member inline =>
      (reported.inline reference member inline).mono isCovered_append
    standalone := fun reference member standalone =>
      ⟨(reported.standalone reference member standalone).1.mono isCovered_append,
        (reported.standalone reference member standalone).2.mono isCovered_append⟩ }
  · intro member among
    rcases List.mem_append.mp among with before | last
    · exact sound.wellFormed member before
    · rw [List.mem_singleton.mp last]
      refine ⟨?_, ?_, by simp [columns]⟩
      · change (header.table state.tablesNumbered).name = _ at name
        rw [IsPlainName, name, String.toList_ofList]
        exact ⟨named, fun inside => oneLine (TableHeader.mem_of_mem_nameParts (.inl inside))⟩
      · change (header.table state.tablesNumbered).schema = _ at schema
        rw [schema]
        intro written given
        obtain ⟨text, parted, rfl⟩ := Option.map_eq_some_iff.mp given
        rw [IsPlainName, String.toList_ofList]
        exact ⟨qualified text parted,
          fun inside => oneLine (TableHeader.mem_of_mem_nameParts (.inr ⟨text, parted, inside⟩))⟩
  · rw [List.map_append, sound.tableIds, List.map_singleton, id]
    exact (numbered_succ "table_" state.tablesNumbered).symm
  · simpa [columns, ReadState.withHeader] using sound.columnIds

theorem readAcceptedTable_sound (sound : state.Sound state.catalog.tables)
    (allowed : header.nameProblems state.catalog = []) (oneLine : '\n' ∉ header.name)
    (linesOneLine : ∀ line ∈ following, '\n' ∉ line.text.toList) :
    ∃ after rest, readAcceptedTable policy state line header following = .ok (after, rest) ∧
      after.Sound after.catalog.tables := by
  have headed := sound.withHeader policy line allowed oneLine
  have body := readBody_keeps policy line header headed linesOneLine
  rw [readAcceptedTable_eq]
  generalize readBody policy line header following
    (state.withHeader policy line header, header.table state.tablesNumbered) = done at body
  obtain ⟨⟨after, table⟩, rest⟩ := done
  obtain ⟨bodySound, catalog, key⟩ := body
  have sameCatalog : after.catalog = state.catalog := catalog
  have free : after.catalog.contains table.key = false := by
    have sameKey : table.key = _ := key
    rw [sameCatalog, sameKey, (header.table_kept _).2.1]
    exact (TableHeader.isIdentifier_of_nameProblems_eq_nil allowed).2.2
  dsimp only
  cases declared : after.catalog.declare table with
  | error refusal => simp [Catalog.declare, free] at declared
  | ok catalog =>
      have tables := Catalog.tables_of_declare declared
      refine ⟨_, _, rfl, ?_⟩
      rw [sameCatalog] at tables
      change Sound catalog.tables { after with catalog }
      rw [tables]
      exact { bodySound with }

end TableScript.ReadState
