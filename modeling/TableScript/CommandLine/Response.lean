import TableScript.CommandLine.Console
import TableScript.CommandLine.Path
import TableScript.CommandLine.Request
import TableScript.Ddl
import TableScript.Read.Record
import TableScript.ReferenceGraph.Cycle
import TableScript.RoundTrip
import TableScript.Text.Grid

namespace TableScript.CommandLine

/-- What the program takes from where it runs. -/
structure Host where
  isDialect : String → Bool := Ddl.dialects.contains
  /-- The longest run of spaces that memory holds. -/
  memory : Nat := Text.usualMemory
  search : CycleSearch := DirectedGraph.circuits

inductive Source where
  | missing
  | bytes (content : List UInt8)

structure Document where
  path : String
  text : String
deriving Repr, DecidableEq

structure Response where
  console : Console
  code : Nat
  document : Option Document := none
deriving Repr, DecidableEq

namespace Response

def written (response : Response) (failure : Option String) : Response :=
  match response.document, failure with
  | some document, none =>
      { response with
        console := response.console.success ("Written to " ++ document.path)
        document := none }
  | some document, some reason =>
      { console := response.console.error
          ("Cannot write file (" ++ reason ++ "): " ++ document.path)
        code := 1 }
  | none, _ => response

end Response

def Source.text (source : Source) (path : String) : Except String String :=
  match source with
  | .missing => .error ("File not found: " ++ path)
  | .bytes content =>
      match Text.Utf8.decode content with
      | .ok text => .ok (String.ofList (Text.Utf8.unifyBreaks text))
      | .error fault => .error ("Cannot read file (" ++ fault.message ++ "): " ++ path)

/-- A number of things, where the plural is left open. -/
def counted (number : Nat) (thing : String) : String :=
  toString number ++ " " ++ thing ++ "(s)"

def refuseValue (console : Console) (reason : String) : Response :=
  { console := console.error reason, code := 2 }

def deliver (console : Console) (text : String) (output : Option String) : Response :=
  match output with
  | some path =>
      if holdsNull path then refuseValue console "embedded null byte"
      else { console, code := 0, document := some ⟨path, text ++ "\n"⟩ }
  | none => { console := console.print text, code := 0 }

def printGrid (console : Console) (headings : List String) (rows : List (List Text.Grid.Cell))
    (next : Console → Response) : Response :=
  match Text.Grid.render headings rows with
  | .ok table => next (console.print table)
  | .error refusal => refuseValue console refusal.message

def diagnosticRows (console : Console) (diagnostics : List Diagnostic) :
    List (List Text.Grid.Cell) :=
  diagnostics.map fun diagnostic => [
    .number diagnostic.line,
    .number diagnostic.column,
    .text (console.paint (if diagnostic.isError then .red else .yellow) diagnostic.severity.label),
    .text diagnostic.kind.label,
    .text diagnostic.message]

/-- Prints the diagnostics as a table and goes on. Nothing is printed where there are none. -/
def printDiagnostics (console : Console) (diagnostics : List Diagnostic)
    (next : Console → Response) : Response :=
  if diagnostics.isEmpty then next console
  else
    printGrid console ["Line", "Col", "Severity", "Kind", "Message"]
      (diagnosticRows console diagnostics) next

def refuse (console : Console) (path : String) (reading : Reading) : Response :=
  let console := console.error (path ++ " has " ++ counted reading.errors.length "error" ++ ":")
  { console := reading.errors.foldl
      (fun console error => console.printMessage ("  " ++ error.shown)) console
    code := 1 }

def check (targetCheck : TargetCheck) (console : Console) (request : Request) (now : Timestamp)
    (script : String) : Response :=
  let reading := Reading.ofScript { targetCheck } script
  if request.choices.json then
    { console := console.print ((reading.toJson now).render (some 2))
      code := if reading.succeeded then 0 else 1 }
  else
    let console := console.information
      ("Checked " ++ request.file ++ " (" ++ toString reading.lineCount ++ " lines)")
    let counts := counted reading.errors.length "error" ++ ", " ++
      counted reading.warnings.length "warning"
    printDiagnostics console reading.diagnostics fun console =>
      if reading.succeeded then
        { console := console.success (counted reading.tables.length "table" ++ ", " ++ counts)
          code := 0 }
      else { console := console.error counts, code := 1 }

/-- The layout that the options of the program ask for. -/
def Choices.layout (choices : Choices) (indentSize memory : Nat) : Layout where
  comments := choices.comments
  metadata := choices.metadata
  indentSize := indentSize
  blankLines := !choices.compact
  memory := memory

/-- A size that is negative is refused; anything that is no size at all ends the program. -/
def format (host : Host) (console : Console) (request : Request) (now : Timestamp) (script : String) :
    Except Stop Response :=
  let reading := Reading.ofScript {} script
  let choices := request.choices
  if !reading.succeeded then pure (refuse console request.file reading)
  else
    match Layout.sizeOf .indentSize 2 (some choices.indent) with
    | .error (.negative option) =>
        pure (refuseValue console (LayoutError.negative option).message)
    | .error error => .error (.noLayout error)
    | .ok indentSize =>
        let writing := Writing.ofSchema (choices.layout indentSize host.memory) now (reading.schema now)
        if writing.succeeded then pure (deliver console writing.text choices.output)
        else pure { console := writing.warnings.foldl Console.error console, code := 1 }

def roundTrip (host : Host) (console : Console) (request : Request) (now : Timestamp) (script : String) :
    Response :=
  let reading := Reading.ofScript {} script
  if !reading.succeeded then refuse console request.file reading
  else
    let schema := reading.schema now
    let outcome := RoundTrip.ofWriting schema (.ofSchema { memory := host.memory } now schema)
    if outcome.isValid then
      { console := console.success ("Round trip preserved " ++
          counted schema.tables.length "table" ++ " and " ++
          counted schema.references.length "reference")
        code := 0 }
    else
      { console := (outcome.errors.zipIdx 1).foldl
          (fun console (error, number) =>
            console.printMessage ("  " ++ toString number ++ ". " ++ error))
          (console.error "Round trip failed:")
        code := 1 }

def tableRows (schema : Schema) (graph : ReferenceGraph) : List (List Text.Grid.Cell) :=
  schema.tables.map fun table => [
    .text table.qualifiedName,
    .number table.columns.length,
    .number (table.columns.countP (·.primaryKey)),
    .number (table.columns.countP (·.foreignKey)),
    .number (graph.referencedBy schema table.qualifiedName).length]

def statisticsRows (statistics : ReferenceGraph.Statistics) : List (List Text.Grid.Cell) := [
  [.text "cycles", .number statistics.cycles],
  [.text "dangling_references", .number statistics.danglingReferences],
  [.text "isolated_tables", .number statistics.isolatedTables],
  [.text "references", .number statistics.references],
  [.text "tables", .number statistics.tables],
  [.text "undeclared_tables", .number statistics.undeclaredTables]]

def remark (host : Host) (console : Console) (reading : Reading) (schema : Schema) (graph : ReferenceGraph) :
    Console :=
  let console := schema.danglingReferences.foldl
    (fun console reference => console.warning ("Dangling reference: " ++ reference.arrow)) console
  let console := (graph.cycles host.search).foldl
    (fun console cycle =>
      console.warning ("Reference cycle: " ++ Text.join " -> " (cycle ++ cycle.take 1))) console
  let isolated := graph.isolated schema
  let console :=
    if isolated.isEmpty then console
    else console.information ("Isolated tables: " ++ Text.join ", " isolated)
  if reading.succeeded then console
  else
    console.warning (counted reading.errors.length "parse error" ++ "; run 'check' for details")

def statistics (host : Host) (console : Console) (request : Request) (now : Timestamp) (script : String) :
    Response :=
  let reading := Reading.ofScript {} script
  let schema := reading.schema now
  let graph := ReferenceGraph.ofSchema schema
  let console := console.information ("\n" ++ request.file ++ "\n")
  printGrid console ["Table", "Columns", "PK", "FK", "Referenced by"] (tableRows schema graph)
    fun console =>
      printGrid (console.print "") ["Metric", "Count"] (statisticsRows (graph.statistics schema host.search))
        fun console => { console := remark host (console.print "") reading schema graph, code := 0 }

def sql (host : Host) (normalize : Ddl.Normalizer) (console : Console) (request : Request)
    (now : Timestamp) (script : String) : Response :=
  let reading := Reading.ofScript {} script
  if !reading.succeeded then refuse console request.file reading
  else
    match Ddl.exportSchema normalize (reading.schema now) request.choices.dialect host.isDialect with
    | .error unknown => refuseValue console unknown.message
    | .ok exported =>
        deliver (exported.warnings.foldl Console.warning console) exported.sql
          request.choices.output

def withScript (console : Console) (path : String) (found : Except Stop Source)
    (answer : String → Except Stop Response) : Except Stop Response := do
  match (← found).text path with
  | .error reason => pure { console := console.error reason, code := 1 }
  | .ok script => answer script

/-- What the program does with what it finds where its file should be. A check without a label is
refused before the file is looked for. -/
def respond (normalize : Ddl.Normalizer) (now : Timestamp) (request : Request)
    (found : Except Stop Source) (host : Host := {}) : Except Stop Response :=
  let console : Console := { colored := request.choices.color }
  let answering := withScript console request.file found
  match request.command with
  | .check =>
      match request.choices.targetCheck with
      | some targetCheck =>
          answering fun script => pure (check targetCheck console request now script)
      | none => pure (refuseValue console TargetCheck.unlabelled)
  | .format => answering fun script => format host console request now script
  | .roundTrip => answering fun script => pure (roundTrip host console request now script)
  | .statistics => answering fun script => pure (statistics host console request now script)
  | .sql => answering fun script => pure (sql host normalize console request now script)

end TableScript.CommandLine
