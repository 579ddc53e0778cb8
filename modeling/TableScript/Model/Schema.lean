import TableScript.Model.Reference

namespace TableScript

/-- A point in time, as it is printed. -/
abbrev Timestamp := String

structure Metadata where
  version : String := "1.0.0"
  created : Timestamp
  modified : Timestamp
  author : Option String := none
deriving Repr, DecidableEq

def Metadata.fresh (now : Timestamp) : Metadata :=
  { created := now, modified := now }

structure Schema where
  tables : List Table := []
  references : List Reference := []
  metadata : Metadata
deriving Repr, DecidableEq

namespace Schema

/-- The first table of that name, in the given schema if one is given and in any otherwise. -/
def table? (schema : Schema) (name : String) (qualifier : Option String) : Option Table :=
  schema.tables.find? fun table =>
    table.name == name && (qualifier.isNone || table.schema == qualifier)

def tableNames (schema : Schema) : List String :=
  schema.tables.map (·.name)

def columnCount (schema : Schema) : Nat :=
  schema.tables.foldl (fun count table => count + table.columns.length) 0

end Schema

end TableScript
