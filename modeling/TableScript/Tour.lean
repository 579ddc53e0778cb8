import TableScript.Ddl
import TableScript.ReferenceGraph.Basic
import TableScript.RoundTrip

namespace TableScript.Tour

/-- The script of the tour. It is indented as a whole and ends in blanks. -/
def script : String :=
  Text.join "\n" [
    "",
    "    // Blog schema",
    "    Table users \x7b",
    "      id integer [pk]",
    "      email varchar(255) [not null, unique]",
    "      created_at timestamp [default: 'now()']",
    "      Note: 'Registered accounts'",
    "    \x7d",
    "",
    "    Table posts \x7b",
    "      id integer [pk]",
    "      user_id integer [ref: > users.id]",
    "      title varchar [note: 'Shown in listings']",
    "      status varchar [default: 'draft']",
    "    \x7d",
    "",
    "    Table comments \x7b",
    "      id integer [pk]",
    "      post_id integer",
    "      body text",
    "    \x7d",
    "",
    "    Ref: comments.post_id > posts.id [delete: cascade]",
    "",
    "    Enum post_status \x7b",
    "      draft",
    "      published",
    "    \x7d",
    "    "]

def rule : String :=
  String.ofList (List.replicate 60 '=')

def heading (title : String) : List String :=
  [rule, title, rule]

def lines (now : Timestamp) : List String :=
  let reading := Reading.ofScript {} script
  let schema := reading.schema now
  let outcome := RoundTrip.ofWriting schema (.ofSchema {} now schema)
  let references := (ReferenceGraph.ofSchema schema).referencedBy schema "users"
  let sql :=
    match Ddl.exportSchema .identity schema "postgres" with
    | .ok exported => exported.sql
    | .error unknown => unknown.message
  heading "dbml-schema v1.0 - Quick Start Demo" ++
    [ "",
      "Parsing schema...\n",
      "[OK] Parsed " ++ toString schema.tables.length ++ " tables and " ++
        toString schema.references.length ++ " references.\n"] ++
    heading "Demo 1: Diagnostics" ++ [""] ++
    reading.diagnostics.map (fun diagnostic => "  " ++ diagnostic.shown) ++ [""] ++
    heading "Demo 2: Regenerate the notation" ++
    ["", (Writing.ofSchema { metadata := false } now schema).text, ""] ++
    heading "Demo 3: Round trip" ++
    ["\n  Valid: " ++ (if outcome.isValid then "True" else "False") ++ "\n"] ++
    heading "Demo 4: Relationships" ++ [""] ++
    references.map (fun reference =>
      "  - " ++ reference.source.written ++ " -> " ++ reference.target.written) ++ [""] ++
    heading "Demo 5: SQL export" ++ ["", sql, ""] ++
    heading "Try it yourself!" ++
    ["\nRun: dbml-schema check schema.dbml\n"]

def output (now : Timestamp) : String :=
  Text.join "" ((lines now).map (· ++ "\n"))

end TableScript.Tour
