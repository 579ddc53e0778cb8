import TableScript.CommandLine.Response
import TableScript.Proofs.Read.WellFormed
import TableScript.Proofs.RoundTrip.Script

namespace TableScript

namespace Write

variable {layout : Layout} {now : Timestamp} {schema : Schema} {table : Table}
  {error : Text.RunError}

theorem tableLines_of_indent (referencesOf : Column → List Reference) (writable : table.Writable)
    (wide : layout.checkIndent = .error error) :
    tableLines layout referencesOf table = .error (.badIndent error) := by
  simp only [tableLines, Table.tableName_eq writable, wide, Except.mapError, bind, Except.bind]

/-- Without tables nothing is indented. -/
theorem blocks_of_no_tables (noTables : schema.tables = []) :
    blocks layout now schema = .ok (scriptBlocks layout now schema) := by
  rw [blocks, scriptBlocks, noTables]
  rfl

theorem blocks_of_indent (writable : ∀ table ∈ schema.tables, table.Writable)
    (nonempty : schema.tables ≠ []) (wide : layout.checkIndent = .error error) :
    blocks layout now schema = .error (.badIndent error) := by
  obtain ⟨table, tables, split⟩ := List.exists_cons_of_ne_nil nonempty
  have first := tableLines_of_indent (schema.inlineReferences table)
    (writable table (split ▸ List.mem_cons_self)) wide
  rw [blocks, split, List.mapM_cons, first]
  rfl

/-- The script of a schema as it is laid out. -/
def scriptText (layout : Layout) (now : Timestamp) (schema : Schema) : String :=
  text layout (scriptBlocks layout now schema)

end Write

namespace Writing

variable {layout : Layout} {now : Timestamp} {schema : Schema}

/-- Everything there is, written. -/
def success (layout : Layout) (now : Timestamp) (schema : Schema) : Writing :=
  let text := Write.scriptText layout now schema
  ⟨text, true, [], schema.tables.length, schema.references.length, Write.countLines text⟩

theorem ofSchema_eq_success (writable : ∀ table ∈ schema.tables, table.Writable)
    (held : schema.tables = [] ∨ layout.checkIndent = .ok ()) :
    ofSchema layout now schema = success layout now schema := by
  have blocks : Write.blocks layout now schema = .ok (Write.scriptBlocks layout now schema) := by
    rcases held with noTables | indented
    · exact Write.blocks_of_no_tables noTables
    · exact Write.blocks_eq writable indented
  have written : Write.script layout now schema = .ok (Write.scriptText layout now schema) := by
    rw [Write.script, blocks]
    rfl
  rw [ofSchema, written]
  rfl

/-- What cannot be indented is no fault of the schema, and the message says so. -/
theorem ofSchema_of_indent (writable : ∀ table ∈ schema.tables, table.Writable)
    (nonempty : schema.tables ≠ []) {error : Text.RunError} (wide : layout.checkIndent = .error error) :
    ofSchema layout now schema = failure ("Unexpected generation error: " ++ error.message) := by
  have refused : Write.script layout now schema = .error (.badIndent error) := by
    rw [Write.script, Write.blocks_of_indent writable nonempty wide]
    rfl
  rw [ofSchema, refused]
  rfl

end Writing

namespace Reading

theorem writable_ofScript (policy : Policy) (script : String) :
    ∀ table ∈ (ofScript policy script).tables, table.Writable :=
  fun _ member => (wellFormed_of_mem_tables member).writable

/-- A script without errors is formatted if it is to be indented as far as can be. -/
theorem format_eq (host : CommandLine.Host) (console : CommandLine.Console) (request : CommandLine.Request)
    (indentSize : Nat) (now : Timestamp) (script : String) (faultless : (ofScript {} script).succeeded = true)
    (size : Layout.sizeOf .indentSize 2 (some request.choices.indent) = .ok indentSize)
    (held : (ofScript {} script).tables = [] ∨ Text.checkRun host.memory indentSize = .ok ()) :
    CommandLine.format host console request now script =
      .ok (CommandLine.deliver console
        (Write.scriptText (request.choices.layout indentSize host.memory) now
          ((ofScript {} script).schema now))
        request.choices.output) := by
  have written : Writing.ofSchema (request.choices.layout indentSize host.memory) now
      ((ofScript {} script).schema now) = _ :=
    Writing.ofSchema_eq_success (writable_ofScript {} script) held
  unfold CommandLine.format
  simp only [faultless, size, Bool.not_true, Bool.false_eq_true, if_false, written]
  rfl

/-- Writing what was read succeeds, with everything there is, unless there are tables and they are to be
indented further than can be; then it says so, and never that the schema cannot be said. So every script
without errors is formatted if it is to be indented as far as can be. -/
theorem succeeded_ofSchema_iff (policy : Policy) (script : String) (layout : Layout)
    (now created : Timestamp) :
    let schema := (ofScript policy script).schema created
    let writing := Writing.ofSchema layout now schema
    (writing.succeeded = true ↔ schema.tables = [] ∨ layout.checkIndent = .ok ()) ∧
      (writing.succeeded = true → writing = .success layout now schema) ∧
      (writing.succeeded = false → ∃ error, layout.checkIndent = .error error ∧
        writing = .failure ("Unexpected generation error: " ++ error.message)) ∧
      ∀ (host : CommandLine.Host) (console : CommandLine.Console) (request : CommandLine.Request)
        (indentSize : Nat),
        (ofScript {} script).succeeded = true →
        Layout.sizeOf .indentSize 2 (some request.choices.indent) = .ok indentSize →
        (ofScript {} script).tables = [] ∨ Text.checkRun host.memory indentSize = .ok () →
        CommandLine.format host console request now script =
          .ok (CommandLine.deliver console
            (Write.scriptText (request.choices.layout indentSize host.memory) now
              ((ofScript {} script).schema now))
            request.choices.output) := by
  intro schema writing
  have writable : ∀ table ∈ schema.tables, table.Writable := writable_ofScript policy script
  have format := fun host console request indentSize faultless size held =>
    format_eq host console request indentSize now script faultless size held
  by_cases held : schema.tables = [] ∨ layout.checkIndent = .ok ()
  · have written : writing = _ := Writing.ofSchema_eq_success writable held
    have succeeded : writing.succeeded = true := by rw [written]; rfl
    refine ⟨iff_of_true succeeded held, fun _ => written, fun failed => ?_, format⟩
    rw [succeeded] at failed
    cases failed
  · obtain ⟨nonempty, wide⟩ := not_or.mp held
    cases indented : layout.checkIndent with
    | ok => exact absurd indented wide
    | error error =>
        have refused : writing = _ := Writing.ofSchema_of_indent writable nonempty indented
        have failed : writing.succeeded = false := by rw [refused]; rfl
        refine ⟨?_, fun succeeded => ?_, fun _ => ⟨error, rfl, refused⟩, format⟩
        · rw [failed, or_iff_right nonempty]
          exact iff_of_false Bool.false_ne_true (fun fits => by cases fits)
        · rw [failed] at succeeded
          cases succeeded

/-- Two tables with a reference written with its column and one that stands alone, where memory holds no more
than is needed. -/
theorem format_twoTables :
    let host : CommandLine.Host := { memory := 4 }
    let console : CommandLine.Console := { colored := false }
    let request : CommandLine.Request := ⟨.format, "a.dbml", { indent := .integer 4, metadata := false }⟩
    let script := "Table s.a \x7b\nid integer [pk, ref: > b.a_id]\n" ++
      "\"full name\" varchar(20) [default: 'x y']\n\x7d\n" ++
      "Table b [color: red] \x7b\na_id integer\n\x7d\nRef: b.a_id - s.a.id [delete: cascade]"
    (ofScript {} script).succeeded = true ∧
      Layout.sizeOf .indentSize 2 (some request.choices.indent) = .ok 4 ∧
      Text.checkRun host.memory 4 = .ok () ∧
      CommandLine.format host console request "now" script = .ok (CommandLine.deliver console
        ("Table s.a \x7b\n    id integer [pk, ref: > b.a_id]\n" ++
          "    \"full name\" varchar(20) [default: 'x y']\n\x7d\n\n" ++
          "Table b [color: red] \x7b\n    a_id integer\n\x7d\n\n" ++
          "// References\nRef: b.a_id - s.a.id [delete: cascade]")
        none) := by
  intro host console request script
  have faultless : (ofScript {} script).succeeded = true := by decide +kernel
  have size : Layout.sizeOf .indentSize 2 (some request.choices.indent) = .ok 4 := rfl
  have fits : Text.checkRun host.memory 4 = .ok () := by decide
  obtain ⟨_, _, _, format⟩ := succeeded_ofSchema_iff {} script {} "now" "now"
  refine ⟨faultless, size, fits, (format host console request 4 faultless size (.inr fits)).trans ?_⟩
  decide +kernel

/-- A table whose body is to be indented further than can be counted. -/
theorem ofSchema_uncountable :
    let reading := ofScript {} "Table a \x7b\n\x7d"
    reading.succeeded = true ∧
      (Writing.ofSchema { indentSize := 9223372036854775808 } "now"
        (reading.schema "now")).succeeded = false := by
  decide +kernel

end Reading

end TableScript
