import TableScript.Proofs.RoundTrip.Inline
import TableScript.Proofs.RoundTrip.ReferenceLine
import TableScript.Proofs.Write.Script

namespace TableScript

open Text

theorem lineFeed_not_mem_toString (number : Nat) : '\n' ∉ (toString number).toList := by
  intro lineFeed
  rw [Nat.toString_eq_ofList_toDigits, String.toList_ofList] at lineFeed
  exact absurd (Nat.isDigit_of_mem_toDigits (by decide) (by decide) lineFeed) (by decide)

theorem lineFeed_not_mem_append {first second : String} (firstOneLine : '\n' ∉ first.toList)
    (secondOneLine : '\n' ∉ second.toList) : '\n' ∉ (first ++ second).toList := by
  rw [String.toList_append, List.mem_append, not_or]
  exact ⟨firstOneLine, secondOneLine⟩

theorem lineFeed_not_mem_join {texts : List String}
    (oneLine : ∀ text ∈ texts, '\n' ∉ text.toList) : '\n' ∉ (join ", " texts).toList := by
  rw [join, String.toList_ofList]
  induction texts with
  | nil => simp
  | cons text rest ih =>
      obtain ⟨first, others⟩ := List.forall_mem_cons.mp oneLine
      cases rest with
      | nil => simpa using first
      | cons second rest =>
          rw [List.map_cons, List.map_cons, List.intercalate_cons_cons, List.mem_append,
            List.mem_append, not_or, not_or]
          exact ⟨⟨first, by decide⟩, ih others⟩

theorem lineFeed_not_mem_bracketedText {settings : List String}
    (oneLine : ∀ setting ∈ settings, '\n' ∉ setting.toList) :
    '\n' ∉ bracketedText (settingsContent settings) := by
  have content := lineFeed_not_mem_join oneLine
  cases settings with
  | nil => simp [settingsContent, bracketedText]
  | cons setting rest => simpa [settingsContent, bracketedText] using content

theorem Endpoint.IsWordy.oneLine {endpoint : Endpoint} (wordy : endpoint.IsWordy) :
    '\n' ∉ endpoint.written.toList :=
  fun lineFeed => absurd (wordy.isBareCharacter '\n' lineFeed) (by decide)

theorem Cardinality.oneLine (cardinality : Cardinality) : '\n' ∉ cardinality.symbol.toList := by
  cases cardinality
  all_goals decide

variable {layout : Layout}

theorem Column.IsSteady.oneLine_text {column : Column} (steady : column.IsSteady layout)
    (writable : column.Writable) {references : List Reference}
    (targets : ∀ reference ∈ references, reference.target.IsWordy) :
    '\n' ∉ (column.text layout references).toList := by
  have settings := lineFeed_not_mem_bracketedText (oneLine_of_isWrittenAs
    (steady.forall₂_columnSettings targets))
  have named : '\n' ∉ column.nameText.toList := by
    unfold Column.nameText
    split
    · exact writable.nameOneLine
    · split
      · simpa using writable.nameOneLine
      · simpa using writable.nameOneLine
  simp [Column.toList_text, named, writable.typeOneLine, settings]

theorem Table.IsSteady.oneLine_headerText {table : Table} (steady : table.IsSteady layout)
    (writable : table.Writable) : '\n' ∉ (table.headerText layout).toList := by
  have settings := lineFeed_not_mem_bracketedText (oneLine_of_isWrittenAs
    steady.properties.forall₂_property)
  have named : '\n' ∉ table.qualifiedName.toList := by
    intro lineFeed
    rcases writable.isIdentifierPart_or_dot_of_mem_qualifiedName lineFeed with part | dot
    · exact absurd part (by decide)
    · cases dot
  rw [toList_headerText, Write.properties_eq]
  simp [TableHeader.endText, named, settings]

theorem Layout.oneLine_indent (layout : Layout) : '\n' ∉ layout.indent.toList := by
  intro lineFeed
  rw [indent, spaces, String.toList_ofList] at lineFeed
  cases List.eq_of_mem_replicate lineFeed

theorem Table.IsSteady.oneLine_lines {table : Table} (steady : table.IsSteady layout)
    (writable : table.Writable) {referencesOf : Column → List Reference}
    (targets : ∀ column ∈ table.columns, ∀ reference ∈ referencesOf column,
      reference.target.IsWordy) :
    ∀ line ∈ table.lines layout referencesOf, '\n' ∉ line.toList := by
  have columns : ∀ line ∈ table.columns.map fun column =>
      layout.indent ++ column.text layout (referencesOf column), '\n' ∉ line.toList := by
    rw [List.forall_mem_map]
    intro column member
    exact lineFeed_not_mem_append layout.oneLine_indent
      ((steady.columns column member).oneLine_text (writable.columns column member)
        (targets column member))
  have note : ∀ line ∈ (table.noteText? layout).toList.map fun note => layout.indent ++ note,
      '\n' ∉ line.toList := by
    rw [List.forall_mem_map]
    intro text member
    obtain ⟨note, _, rfl⟩ := Option.map_eq_some_iff.mp (Option.mem_toList.mp member)
    have noteOneLine : '\n' ∉ ("Note: " ++ Write.quoted note).toList := by
      rw [toList_note]
      simp [lineBreak_not_mem_quote]
    exact lineFeed_not_mem_append layout.oneLine_indent noteOneLine
  simp only [lines, List.cons_append, List.forall_mem_cons, List.forall_mem_append]
  exact ⟨steady.oneLine_headerText writable, ⟨columns, note⟩, by simp⟩

/-- A schema whose tables are written again as they were, once they were written and read, like each of
its references. -/
structure Schema.IsSteady (schema : Schema) (layout : Layout) : Prop where
  tables : ∀ table ∈ schema.tables, table.IsSteady layout
  inline : ∀ reference ∈ schema.references, schema.writesInline reference = true →
    reference.target.IsWordy
  standalone : ∀ reference ∈ schema.standaloneReferences, reference.onOwnLine.IsPlain

theorem Schema.IsSteady.isWordy_target {schema : Schema} (steady : schema.IsSteady layout)
    {table : Table} {column : Column} :
    ∀ reference ∈ schema.inlineReferences table column, reference.target.IsWordy := by
  intro reference member
  obtain ⟨listed, _, written⟩ := Schema.writesInline_of_mem_inlineReferences member
  exact steady.inline reference listed written

theorem Reference.IsWordy.oneLine_referenceLine {reference : Reference} (wordy : reference.IsWordy)
    (oneLine : ∀ text ∈ reference.actionTexts, '\n' ∉ text.toList) :
    '\n' ∉ (Write.referenceLine reference).toList := by
  have settings := lineFeed_not_mem_bracketedText oneLine
  have named : '\n' ∉ ReferenceLine.nameText (reference.name.map String.toList) := by
    cases name : reference.name with
    | none => simp [ReferenceLine.nameText]
    | some text =>
        have words := (wordy.named text name).oneLine
        simpa [ReferenceLine.nameText] using words
  rw [toList_referenceLine, wordy.nameText_eq, toList_arrow]
  simp [named, wordy.source.oneLine, wordy.target.oneLine, Cardinality.oneLine, settings]

theorem Reference.IsPlain.oneLine_referenceLine {reference : Reference} (plain : reference.IsPlain) :
    '\n' ∉ (Write.referenceLine reference).toList :=
  plain.isWordy.oneLine_referenceLine (oneLine_of_isWrittenAs plain.forall₂_actionTexts)

theorem Write.oneLine_labelled {label : String} (text : Option String)
    (labelOneLine : '\n' ∉ label.toList) (oneLine : ∀ given ∈ text, '\n' ∉ given.toList) :
    ∀ line ∈ labelled label text, '\n' ∉ line.toList := by
  unfold labelled
  split
  · cases text with
    | none => simpa using labelOneLine
    | some given =>
        have givenOneLine := oneLine given rfl
        simp [labelOneLine, givenOneLine]
  · simp

theorem Write.oneLine_header {now : Timestamp} {metadata : Metadata}
    (nowOneLine : '\n' ∉ now.toList) (oneLine : metadata.IsOneLine) :
    ∀ line ∈ header now metadata, '\n' ∉ line.toList := by
  have authorLabel : '\n' ∉ "// Author: ".toList := by decide
  have createdLabel : '\n' ∉ "// Created: ".toList := by decide
  have modifiedLabel : '\n' ∉ "// Modified: ".toList := by decide
  have author := oneLine_labelled metadata.author authorLabel oneLine.author
  have created := oneLine_labelled (some metadata.created) createdLabel
    (by simpa using oneLine.created)
  have modified := oneLine_labelled (some metadata.modified) modifiedLabel
    (by simpa using oneLine.modified)
  rw [header]
  simp only [List.forall_mem_append, List.forall_mem_cons]
  refine ⟨⟨⟨⟨by decide, ?_, ?_, by simp⟩, author⟩, created⟩, modified⟩
  · exact lineFeed_not_mem_append (by decide) nowOneLine
  · exact lineFeed_not_mem_append (by decide) oneLine.version

theorem Write.oneLine_statistics (schema : Schema) :
    ∀ line ∈ statistics schema, '\n' ∉ line.toList := by
  rw [statistics]
  simp only [List.forall_mem_cons]
  refine ⟨by decide, ?_, ?_, ?_, by simp⟩
  all_goals exact lineFeed_not_mem_append (by decide) (lineFeed_not_mem_toString _)

theorem Write.oneLine_bareBlocks {tables : List Table}
    {referencesOf : Table → Column → List Reference} {standalone : List Reference}
    (writable : ∀ table ∈ tables, table.Writable) (steady : ∀ table ∈ tables, table.IsSteady layout)
    (targets : ∀ table ∈ tables, ∀ column ∈ table.columns,
      ∀ reference ∈ referencesOf table column, reference.target.IsWordy)
    (oneLine : ∀ line ∈ standalone.map referenceLine, '\n' ∉ line.toList) :
    ∀ block ∈ bareBlocks layout tables referencesOf standalone, ∀ line ∈ block,
      '\n' ∉ line.toList := by
  have lines : ∀ block ∈ tables.map fun table => table.lines layout (referencesOf table),
      ∀ line ∈ block, '\n' ∉ line.toList := by
    rw [List.forall_mem_map]
    exact fun table member => (steady table member).oneLine_lines (writable table member)
      (targets table member)
  have references : ∀ block ∈ referenceBlock layout standalone, ∀ line ∈ block,
      '\n' ∉ line.toList := by
    unfold referenceBlock
    split
    · simp
    · rw [List.forall_mem_singleton, List.forall_mem_append]
      refine ⟨?_, oneLine⟩
      split
      · exact List.forall_mem_singleton.mpr (by decide)
      · simp
  exact List.forall_mem_append.mpr ⟨lines, references⟩

theorem Schema.IsSteady.oneLine_referenceLine {schema : Schema} (steady : schema.IsSteady layout) :
    ∀ line ∈ schema.standaloneReferences.map Write.referenceLine, '\n' ∉ line.toList := by
  rw [List.forall_mem_map]
  intro reference member
  rw [← reference.referenceLine_onOwnLine]
  exact (steady.standalone reference member).oneLine_referenceLine

theorem Write.oneLine_scriptBlocks (now : Timestamp) {schema : Schema}
    (writable : ∀ table ∈ schema.tables, table.Writable) (steady : schema.IsSteady layout)
    (framed : layout.metadata = true → '\n' ∉ now.toList ∧ schema.metadata.IsOneLine) :
    ∀ block ∈ scriptBlocks layout now schema, ∀ line ∈ block, '\n' ∉ line.toList := by
  have inside : ∀ block ∈ bareBlocks layout schema.tables schema.inlineReferences
      schema.standaloneReferences, ∀ line ∈ block, '\n' ∉ line.toList :=
    oneLine_bareBlocks writable steady.tables (fun _ _ _ _ => steady.isWordy_target)
      steady.oneLine_referenceLine
  cases metadata : layout.metadata with
  | false => rwa [scriptBlocks_eq_bareBlocks metadata]
  | true =>
      obtain ⟨nowOneLine, oneLine⟩ := framed metadata
      have frame : ∀ lines : List String, (∀ line ∈ lines, '\n' ∉ line.toList) →
          ∀ block ∈ if layout.comments && layout.metadata then [lines] else [],
            ∀ line ∈ block, '\n' ∉ line.toList := by
        intro lines each
        split
        · exact List.forall_mem_singleton.mpr each
        · simp
      simp only [scriptBlocks_eq, List.forall_mem_append]
      exact ⟨⟨frame _ (oneLine_header nowOneLine oneLine), inside⟩,
        frame _ (oneLine_statistics schema)⟩

end TableScript
