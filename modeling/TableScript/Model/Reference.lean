import TableScript.Model.Table

namespace TableScript

inductive Cardinality where
  | oneToOne
  | oneToMany
  | manyToOne
  | manyToMany
deriving Repr, DecidableEq

namespace Cardinality

def label : Cardinality → String
  | .oneToOne => "one-to-one"
  | .oneToMany => "one-to-many"
  | .manyToOne => "many-to-one"
  | .manyToMany => "many-to-many"

def ofLabel? (label : String) : Option Cardinality :=
  [oneToOne, oneToMany, manyToOne, manyToMany].find? (·.label == label)

def symbol : Cardinality → String
  | .oneToOne => "-"
  | .oneToMany => ">"
  | .manyToOne => "<"
  | .manyToMany => "<>"

/-- Angle brackets decide: both kinds, one of them, or none. -/
def ofSymbol (symbol : List Char) : Cardinality :=
  match symbol.contains '<', symbol.contains '>' with
  | true, true => .manyToMany
  | true, false => .manyToOne
  | false, true => .oneToMany
  | false, false => .oneToOne

theorem ofSymbol_symbol (cardinality : Cardinality) :
    ofSymbol cardinality.symbol.toList = cardinality := by
  cases cardinality <;> decide

end Cardinality

structure Endpoint where
  schema : Option String := none
  table : String
  column : String
deriving Repr, DecidableEq

def Endpoint.written (endpoint : Endpoint) : String :=
  qualify endpoint.schema endpoint.table ++ "." ++ endpoint.column

structure Reference where
  id : String
  source : Endpoint
  target : Endpoint
  cardinality : Cardinality := .oneToMany
  name : Option String := none
  onDelete : Option String := none
  onUpdate : Option String := none
  inline : Bool := false
deriving Repr, DecidableEq

def Reference.arrow (reference : Reference) : String :=
  reference.source.written ++ " " ++ reference.cardinality.symbol ++ " " ++ reference.target.written

/-- What may be done to the rows that refer to a row which changes. -/
def referentialActions : List String :=
  ["cascade", "restrict", "set null", "set default", "no action"]

end TableScript
