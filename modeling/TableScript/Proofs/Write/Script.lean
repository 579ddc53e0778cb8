import TableScript.Proofs.Write.Reference
import TableScript.Proofs.Write.Table

namespace TableScript

namespace Write

variable {layout : Layout} {now : Timestamp} {schema : Schema}

/-- The blocks of the script of a schema whose tables can be written. -/
def scriptBlocks (layout : Layout) (now : Timestamp) (schema : Schema) : List (List String) :=
  (if layout.comments && layout.metadata then [header now schema.metadata] else []) ++
    (schema.tables.map fun table => table.lines layout (schema.inlineReferences table)) ++
    referenceBlock layout schema.standaloneReferences ++
    (if layout.comments && layout.metadata then [statistics schema] else [])

/-- The blocks between the comments at its ends. -/
def bareBlocks (layout : Layout) (tables : List Table)
    (referencesOf : Table → Column → List Reference) (standalone : List Reference) :
    List (List String) :=
  (tables.map fun table => table.lines layout (referencesOf table)) ++
    referenceBlock layout standalone

theorem scriptBlocks_eq (layout : Layout) (now : Timestamp) (schema : Schema) :
    scriptBlocks layout now schema =
      (if layout.comments && layout.metadata then [header now schema.metadata] else []) ++
        bareBlocks layout schema.tables schema.inlineReferences schema.standaloneReferences ++
        (if layout.comments && layout.metadata then [statistics schema] else []) := by
  rw [scriptBlocks, bareBlocks, ← List.append_assoc]

theorem scriptBlocks_eq_bareBlocks (bare : layout.metadata = false) :
    scriptBlocks layout now schema =
      bareBlocks layout schema.tables schema.inlineReferences schema.standaloneReferences := by
  rw [scriptBlocks_eq, bare, Bool.and_false, if_neg Bool.false_ne_true, if_neg Bool.false_ne_true,
    List.nil_append, List.append_nil]

theorem blocks_eq (writable : ∀ table ∈ schema.tables, table.Writable)
    (indented : layout.checkIndent = .ok ()) :
    blocks layout now schema = .ok (scriptBlocks layout now schema) := by
  have tables : schema.tables.mapM (fun table =>
      tableLines layout (schema.inlineReferences table) table) = _ :=
    mapM_eq_ok _ (fun table => table.lines layout (schema.inlineReferences table))
      fun table member => Table.tableLines_eq (writable table member) indented
  rw [blocks, tables]
  rfl

/-- The texts of the lines that count. -/
def texts (lines : List String) : List String :=
  lines.filterMap fun line => SourceLine.content? line.toList

theorem texts_append (first second : List String) :
    texts (first ++ second) = texts first ++ texts second :=
  List.filterMap_append

theorem texts_lines (layout : Layout) (blocks : List (List String)) :
    texts (lines layout blocks) = blocks.flatMap texts := by
  have blank : texts [""] = [] := by decide
  have spaced : ∀ blocks : List (List String),
      texts (blocks.intersperse [""]).flatten = blocks.flatMap texts := by
    intro blocks
    induction blocks with
    | nil => rfl
    | cons first rest ih =>
        cases rest with
        | nil => simp
        | cons second rest =>
            rw [List.intersperse_cons_cons, List.flatten_cons, List.flatten_cons, texts_append,
              texts_append, blank, ih, List.nil_append, List.flatMap_cons (x := first)]
  have joined : texts blocks.flatten = blocks.flatMap texts := by
    induction blocks with
    | nil => rfl
    | cons first rest ih => rw [List.flatten_cons, texts_append, ih, List.flatMap_cons]
  unfold lines
  split
  · exact spaced blocks
  · exact joined

theorem eq_empty_or_mem_of_mem_lines {blocks : List (List String)} {line : String}
    (member : line ∈ lines layout blocks) : line = "" ∨ ∃ block ∈ blocks, line ∈ block := by
  have spaced : ∀ blocks : List (List String), line ∈ (blocks.intersperse [""]).flatten →
      line = "" ∨ ∃ block ∈ blocks, line ∈ block := by
    intro blocks member
    induction blocks with
    | nil => cases member
    | cons first rest ih =>
        cases rest with
        | nil => exact .inr ⟨first, by simp, by simpa using member⟩
        | cons second rest =>
            rw [List.intersperse_cons_cons, List.flatten_cons, List.flatten_cons] at member
            rcases List.mem_append.mp member with inFirst | behind
            · exact .inr ⟨first, List.mem_cons_self, inFirst⟩
            · rcases List.mem_append.mp behind with blank | later
              · exact .inl (List.mem_singleton.mp blank)
              · rcases ih later with blank | ⟨block, among, inside⟩
                · exact .inl blank
                · exact .inr ⟨block, List.mem_cons_of_mem first among, inside⟩
  unfold lines at member
  split at member
  · exact spaced blocks member
  · exact .inr (List.mem_flatten.mp member)

theorem texts_of_comments {lines : List String}
    (comments : ∀ line ∈ lines, ∃ rest, line.toList = '/' :: '/' :: rest) : texts lines = [] := by
  rw [texts, List.filterMap_eq_nil_iff]
  intro line member
  obtain ⟨rest, characters⟩ := comments line member
  rw [characters]
  exact SourceLine.content?_comment rest

theorem texts_labelled {label : String} {text : Option String} {rest : List Char}
    (comment : label.toList = '/' :: '/' :: rest) : texts (labelled label text) = [] := by
  refine texts_of_comments fun line member => ?_
  unfold labelled at member
  split at member
  · rw [List.mem_singleton.mp member, String.toList_append, comment]
    exact ⟨_, rfl⟩
  · cases member

theorem texts_header (now : Timestamp) (metadata : Metadata) : texts (header now metadata) = [] := by
  have fixed : texts ["// Database Schema", "// Generated on: " ++ now,
      "// Version: " ++ metadata.version] = [] := by
    refine texts_of_comments ?_
    simp only [List.forall_mem_cons, String.toList_append]
    exact ⟨⟨_, rfl⟩, ⟨_, rfl⟩, ⟨_, rfl⟩, by simp⟩
  rw [header, texts_append, texts_append, texts_append, fixed, texts_labelled rfl,
    texts_labelled rfl, texts_labelled rfl]
  rfl

theorem texts_statistics (schema : Schema) : texts (statistics schema) = [] := by
  refine texts_of_comments ?_
  simp only [statistics, List.forall_mem_cons, String.toList_append]
  exact ⟨⟨_, rfl⟩, ⟨_, rfl⟩, ⟨_, rfl⟩, ⟨_, rfl⟩, by simp⟩

theorem texts_referenceBlock (references : List Reference) :
    (referenceBlock layout references).flatMap texts = references.map Reference.lineText := by
  have comment : texts (if layout.comments then ["// References"] else []) = [] := by
    split
    · exact texts_of_comments (by simp only [List.forall_mem_cons]; exact ⟨⟨_, rfl⟩, by simp⟩)
    · rfl
  have lines : texts (references.map referenceLine) = references.map Reference.lineText := by
    rw [texts, List.filterMap_map]
    exact List.filterMap_eq_map_iff_forall_eq_some.mpr fun reference _ =>
      reference.content?_referenceLine
  unfold referenceBlock
  split
  · rename_i empty
    rw [List.isEmpty_iff.mp empty]
    rfl
  · rw [List.flatMap_singleton, texts_append, comment, lines, List.nil_append]

/-- What counts between the comments: the lines of the tables, then those of references. -/
theorem texts_bareBlocks {tables : List Table} (writable : ∀ table ∈ tables, table.Writable)
    (referencesOf : Table → Column → List Reference) (standalone : List Reference) :
    (bareBlocks layout tables referencesOf standalone).flatMap texts =
      (tables.flatMap fun table => table.texts layout (referencesOf table)) ++
        standalone.map Reference.lineText := by
  have lines : (tables.map fun table => table.lines layout (referencesOf table)).flatMap texts =
      tables.flatMap fun table => table.texts layout (referencesOf table) := by
    rw [List.flatMap_map]
    exact List.flatMap_congr fun table member =>
      Table.filterMap_content?_lines (writable table member)
  rw [bareBlocks, List.flatMap_append, lines, texts_referenceBlock]

/-- Nothing else of a script counts. -/
theorem texts_scriptBlocks (writable : ∀ table ∈ schema.tables, table.Writable) :
    (scriptBlocks layout now schema).flatMap texts =
      (schema.tables.flatMap fun table => table.texts layout (schema.inlineReferences table)) ++
        schema.standaloneReferences.map Reference.lineText := by
  have head : (if layout.comments && layout.metadata then [header now schema.metadata]
      else []).flatMap texts = [] := by
    split
    · rw [List.flatMap_singleton, texts_header]
    · rfl
  have foot : (if layout.comments && layout.metadata then [statistics schema]
      else []).flatMap texts = [] := by
    split
    · rw [List.flatMap_singleton, texts_statistics]
    · rfl
  rw [scriptBlocks_eq, List.flatMap_append, List.flatMap_append, head, foot, List.nil_append,
    List.append_nil, texts_bareBlocks writable]

/-- The script as it is laid out. -/
def text (layout : Layout) (blocks : List (List String)) : String :=
  Text.join "\n" (lines layout blocks)

/-- The texts of the lines of a script that was written, where no line that is written breaks. -/
theorem map_text_ofScript_text {blocks : List (List String)}
    (oneLine : ∀ block ∈ blocks, ∀ line ∈ block, '\n' ∉ line.toList) :
    (SourceLine.ofScript (text layout blocks)).map SourceLine.text = blocks.flatMap texts := by
  have each : ∀ line ∈ lines layout blocks, '\n' ∉ line.toList := by
    intro line member
    rcases eq_empty_or_mem_of_mem_lines member with rfl | ⟨block, among, inside⟩
    · simp
    · exact oneLine block among line inside
  rw [text, SourceLine.map_text_ofScript_join each]
  exact texts_lines layout blocks

theorem map_text_ofScript_script (writable : ∀ table ∈ schema.tables, table.Writable)
    (oneLine : ∀ block ∈ scriptBlocks layout now schema, ∀ line ∈ block, '\n' ∉ line.toList) :
    (SourceLine.ofScript (Text.join "\n" (lines layout (scriptBlocks layout now schema)))).map
        SourceLine.text =
      (schema.tables.flatMap fun table => table.texts layout (schema.inlineReferences table)) ++
        schema.standaloneReferences.map Reference.lineText :=
  (map_text_ofScript_text oneLine).trans (texts_scriptBlocks writable)

end Write

end TableScript
