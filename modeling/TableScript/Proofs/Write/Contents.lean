import TableScript.Proofs.RoundTrip.Writable
import TableScript.Proofs.Write.OneLine

/-! What the lines of a script say that was written, whatever stands in them. A name, a type or a value may
break its line, so that one line that is written is read as several; what those say does not depend on how
the script is laid out. -/

namespace TableScript

namespace SourceLine

/-- What a text says, line by line. -/
def contents (raw : List Char) : List String :=
  (raw.splitOn '\n').filterMap content?

theorem content?_cons_blank {blank : Char} (isBlank : Text.isBlank blank = true) (raw : List Char) :
    content? (blank :: raw) = content? raw := by
  have start : Text.trimStart (blank :: raw) = Text.trimStart raw := List.dropWhile_cons_of_pos isBlank
  rw [content?, content?, Text.trim, start, Text.trim]

theorem contents_cons_blank {blank : Char} (isBlank : Text.isBlank blank = true) (raw : List Char) :
    contents (blank :: raw) = contents raw := by
  rw [contents, contents, List.splitOn_cons_eq_if_modifyHead]
  split
  · have nothing : content? [] = none := rfl
    rw [List.filterMap_cons_none nothing]
  · cases pieces : raw.splitOn '\n' with
    | nil => exact absurd pieces (List.splitOn_ne_nil '\n' raw)
    | cons piece more =>
        rw [List.modifyHead_cons, List.filterMap_cons, List.filterMap_cons, content?_cons_blank isBlank]

/-- Blanks in front say nothing, even if a line ends among them. -/
theorem contents_append_of_blank {blanks : List Char} (blank : ∀ c ∈ blanks, Text.isBlank c = true)
    (raw : List Char) : contents (blanks ++ raw) = contents raw := by
  induction blanks with
  | nil => rfl
  | cons c blanks ih =>
      obtain ⟨first, rest⟩ := List.forall_mem_cons.mp blank
      rw [List.cons_append, contents_cons_blank first, ih rest]

theorem contents_of_oneLine {raw : List Char} (oneLine : '\n' ∉ raw) :
    contents raw = (content? raw).toList := by
  rw [contents, List.splitOn_eq_singleton oneLine, List.filterMap_cons]
  cases content? raw <;> rfl

theorem contents_append_lineFeed (before behind : List Char) :
    contents (before ++ '\n' :: behind) = contents before ++ contents behind := by
  simp only [contents, List.splitOn_append_cons_self, List.filterMap_append]

theorem contents_join (lines : List String) :
    contents (Text.join "\n" lines).toList = lines.flatMap fun line => contents line.toList := by
  rw [Text.join, String.toList_ofList]
  induction lines with
  | nil => rfl
  | cons line rest ih =>
      cases rest with
      | nil => simp
      | cons second rest =>
          rw [List.flatMap_cons, ← ih, List.map_cons, List.map_cons, List.intercalate_cons_cons,
            List.append_assoc]
          exact contents_append_lineFeed _ _

end SourceLine

namespace Write

/-- What lines say that are written one below the other. -/
def said (lines : List String) : List String :=
  lines.flatMap fun line => SourceLine.contents line.toList

theorem map_text_ofScript_lines (lines : List String) :
    (SourceLine.ofScript (Text.join "\n" lines)).map SourceLine.text = said lines :=
  (SourceLine.map_text_ofScript _).trans (SourceLine.contents_join lines)

theorem said_cons (line : String) (lines : List String) :
    said (line :: lines) = SourceLine.contents line.toList ++ said lines :=
  List.flatMap_cons

theorem said_append (lines others : List String) : said (lines ++ others) = said lines ++ said others :=
  List.flatMap_append

theorem said_of_oneLine {lines : List String} (oneLine : ∀ line ∈ lines, '\n' ∉ line.toList) :
    said lines = texts lines := by
  rw [said, texts, List.filterMap_eq_flatMap_toList]
  exact List.flatMap_congr fun line member => SourceLine.contents_of_oneLine (oneLine line member)

theorem contents_indent (layout : Layout) (line : String) :
    SourceLine.contents (layout.indent ++ line).toList = SourceLine.contents line.toList := by
  rw [String.toList_append, SourceLine.contents_append_of_blank (Table.blank_indent layout)]

/-- Blank lines between the blocks say nothing. -/
theorem said_lines (layout : Layout) (blocks : List (List String)) :
    said (lines layout blocks) = blocks.flatMap said := by
  have blank : said [""] = [] := by decide
  have spaced : said (blocks.intersperse [""]).flatten = blocks.flatMap said := by
    induction blocks with
    | nil => rfl
    | cons block rest ih =>
        cases rest with
        | nil => simp
        | cons next rest =>
            rw [List.intersperse_cons_cons, List.flatten_cons, List.flatten_cons, said_append,
              said_append, blank, ih, List.nil_append, List.flatMap_cons (x := block)]
  unfold lines
  split
  · exact spaced
  · rw [← List.flatMap_id']
    exact List.flatMap_assoc

/-- What is written of a list part by part says what its parts say. -/
theorem map_flatMap_mapM {m : Type → Type} [Monad m] [LawfulMonad m] {α β γ : Type} (write : α → m β)
    (content : β → List γ) (list : List α) :
    (·.flatMap content) <$> list.mapM write =
      List.flatten <$> list.mapM fun x => content <$> write x := by
  induction list with
  | nil => simp
  | cons x rest ih =>
      have behind : ∀ part, (rest.mapM write >>= fun parts => pure (content part ++ parts.flatMap content)) =
          (rest.mapM fun x => content <$> write x) >>= fun parts => pure (content part ++ parts.flatten) := by
        intro part
        have both := congrArg (· >>= fun parts => pure (content part ++ parts)) ih
        simpa only [bind_map_left] using both
      simp only [List.mapM_cons, map_bind, map_pure, bind_map_left, List.flatMap_cons, List.flatten_cons,
        behind]

section Layout

variable {layout : Layout} {now : Timestamp} {schema : Schema}

theorem map_said_columns (layout : Layout) (referencesOf : Column → List Reference)
    (columns : List Column) :
    said <$> (columns.mapM fun column => do
        let line ← columnLine layout column (referencesOf column)
        pure (layout.indent ++ line)) =
      List.flatten <$> columns.mapM fun column =>
        (fun line => SourceLine.contents line.toList) <$> columnLine layout column (referencesOf column) := by
  have indented : ∀ column, (fun line => SourceLine.contents line.toList) <$> (do
        let line ← columnLine layout column (referencesOf column)
        pure (layout.indent ++ line)) =
      (fun line => SourceLine.contents line.toList) <$> columnLine layout column (referencesOf column) := by
    intro column
    simp only [bind_pure_comp, Functor.map_map, contents_indent]
  unfold said
  rw [map_flatMap_mapM]
  simp only [indented]

/-- What the lines of a table say, or why there are none. -/
def tableContents (layout : Layout) (referencesOf : Column → List Reference) (table : Table) :
    Except WriteError (List String) := do
  let name ← tableName table
  layout.checkIndent.mapError .badIndent
  let header := "Table " ++ name ++ bracketed (properties layout table.properties) ++ " \x7b"
  let columns ← table.columns.mapM fun column =>
    (fun line => SourceLine.contents line.toList) <$> columnLine layout column (referencesOf column)
  let notes := (note? layout table.note).toList.map fun note => "Note: " ++ note
  pure (SourceLine.contents header.toList ++ (columns.flatten ++ said notes ++ said ["\x7d"]))

/-- Nothing that the lines of a table say depends on how far they are indented. -/
theorem map_said_tableLines (layout : Layout) (referencesOf : Column → List Reference) (table : Table) :
    said <$> tableLines layout referencesOf table = tableContents layout referencesOf table := by
  have notes : said ((note? layout table.note).toList.map fun note => layout.indent ++ "Note: " ++ note) =
      said ((note? layout table.note).toList.map fun note => "Note: " ++ note) := by
    simp only [said, List.flatMap_map, String.append_assoc, contents_indent]
  unfold tableLines tableContents
  simp only [map_bind]
  refine bind_congr fun name => bind_congr fun _ => ?_
  let header := "Table " ++ name ++ bracketed (properties layout table.properties) ++ " \x7b"
  let whole (columns : List String) := SourceLine.contents header.toList ++ (columns ++
    said ((note? layout table.note).toList.map fun note => "Note: " ++ note) ++ said ["\x7d"])
  have both := congrArg (whole <$> ·) (map_said_columns layout referencesOf table.columns)
  simp only [Functor.map_map] at both
  rw [← bind_pure_comp, ← bind_pure_comp] at both
  rw [← both]
  simp only [map_pure, List.cons_append, said_cons, said_append, notes]
  rfl

theorem said_frame {lines : List String} (frame : Bool) (comments : texts lines = [])
    (oneLine : ∀ line ∈ lines, '\n' ∉ line.toList) :
    (if frame then [lines] else []).flatMap said = [] := by
  cases frame with
  | false => rfl
  | true => rw [if_pos rfl, List.flatMap_singleton, said_of_oneLine oneLine, comments]

/-- What a script says, or why there is none: what its tables say and then its references. What is written
around them says nothing. -/
theorem map_said_script (layout : Layout) (nowOneLine : '\n' ∉ now.toList)
    (oneLine : schema.metadata.IsOneLine) :
    (fun script => (SourceLine.ofScript script).map SourceLine.text) <$> script layout now schema =
      (fun tables => tables.flatten ++
          (referenceBlock layout schema.standaloneReferences).flatMap said) <$>
        schema.tables.mapM fun table =>
          tableContents layout (schema.inlineReferences table) table := by
  have head := said_frame (layout.comments && layout.metadata) (texts_header now schema.metadata)
    (oneLine_header nowOneLine oneLine)
  have foot := said_frame (layout.comments && layout.metadata) (texts_statistics schema)
    (oneLine_statistics schema)
  have tables := map_flatMap_mapM
    (fun table => tableLines layout (schema.inlineReferences table) table) said schema.tables
  simp only [map_said_tableLines] at tables
  have both := congrArg ((· ++ (referenceBlock layout schema.standaloneReferences).flatMap said) <$> ·) tables
  simp only [Functor.map_map] at both
  rw [← both]
  simp only [script, blocks, bind_pure_comp, Functor.map_map, map_text_ofScript_lines, said_lines,
    List.flatMap_append, head, foot, List.nil_append, List.append_nil]

end Layout

end Write

end TableScript
