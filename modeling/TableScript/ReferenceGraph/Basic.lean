import TableScript.Model.Schema
import TableScript.Text.Cut

/-! The graph of a schema: its tables are the nodes, its references the edges. A reference to a table
that is not declared makes a node of its own. Nodes stand in the order in which they come up, the
declared ones first. Two tables are joined by as many edges as there are references between them. -/

namespace TableScript

structure GraphNode where
  name : String
  declared : Bool
deriving Repr, DecidableEq

structure GraphEdge where
  source : String
  target : String
  reference : Reference
  position : Nat
deriving Repr, DecidableEq

/-- Edges that are told apart by nothing: the same ends and the same reference identifier. -/
def GraphEdge.coincides (first second : GraphEdge) : Bool :=
  first.source == second.source && first.target == second.target &&
    first.reference.id == second.reference.id

structure ReferenceGraph where
  nodes : List GraphNode := []
  edges : List GraphEdge := []
deriving Repr, DecidableEq

namespace ReferenceGraph

def hasNode (graph : ReferenceGraph) (name : String) : Bool :=
  graph.nodes.any (·.name == name)

def addNode (graph : ReferenceGraph) (node : GraphNode) : ReferenceGraph :=
  if graph.hasNode node.name then graph else { graph with nodes := graph.nodes ++ [node] }

/-- Adds an edge; an edge that coincides with it gives its place to it. -/
def addEdge (graph : ReferenceGraph) (edge : GraphEdge) : ReferenceGraph :=
  if graph.edges.any edge.coincides then
    { graph with edges := modifyFirst edge.coincides (fun _ => edge) graph.edges }
  else { graph with edges := graph.edges ++ [edge] }

def nodeName (schema : Schema) (endpoint : Endpoint) : String :=
  match schema.table? endpoint.table endpoint.schema with
  | some table => table.qualifiedName
  | none => qualify endpoint.schema endpoint.table

def addReference (schema : Schema) (graph : ReferenceGraph) (numbered : Reference × Nat) :
    ReferenceGraph :=
  let (reference, position) := numbered
  let source := nodeName schema reference.source
  let target := nodeName schema reference.target
  ((graph.addNode ⟨source, false⟩).addNode ⟨target, false⟩).addEdge
    ⟨source, target, reference, position⟩

def ofTables (tables : List Table) : ReferenceGraph :=
  tables.foldl (fun graph table => graph.addNode ⟨table.qualifiedName, true⟩) {}

def ofSchema (schema : Schema) : ReferenceGraph :=
  schema.references.zipIdx.foldl (addReference schema) (ofTables schema.tables)

/-- The nodes to which edges lead from a node, each once, in the order of the first edge. -/
def successors (graph : ReferenceGraph) (name : String) : List String :=
  ((graph.edges.filter (·.source == name)).map (·.target)).eraseDups

def predecessors (graph : ReferenceGraph) (name : String) : List String :=
  ((graph.edges.filter (·.target == name)).map (·.source)).eraseDups

/-- The edges from node to node: by their source in the order of the nodes, then by their target in
the order of the first edge to it. -/
def edgesByNode (graph : ReferenceGraph) : List GraphEdge :=
  graph.nodes.flatMap fun node =>
    (graph.successors node.name).flatMap fun target =>
      graph.edges.filter fun edge => edge.source == node.name && edge.target == target

/-- The node that a table name means: that of the same name, or that of the table which the name,
cut at its last dot, names. -/
def nodeOf? (schema : Schema) (graph : ReferenceGraph) (name : String) : Option String :=
  if graph.hasNode name then some name
  else
    let found :=
      match Text.cutAtLast '.' name.toList with
      | some ([], table) => schema.table? (String.ofList table) none
      | some (qualifier, table) =>
          schema.table? (String.ofList table) (some (String.ofList qualifier))
      | none => schema.table? name none
    found.map Table.qualifiedName

def referencesOf (graph : ReferenceGraph) (schema : Schema) (chosen : GraphEdge → Bool) :
    List Reference :=
  let positions := (graph.edges.filter chosen).map (·.position)
  (schema.references.zipIdx.filter fun numbered => positions.contains numbered.2).map Prod.fst

def referencedBy (graph : ReferenceGraph) (schema : Schema) (name : String) : List Reference :=
  match nodeOf? schema graph name with
  | some node => graph.referencesOf schema (·.target == node)
  | none => []

def referencesFrom (graph : ReferenceGraph) (schema : Schema) (name : String) : List Reference :=
  match nodeOf? schema graph name with
  | some node => graph.referencesOf schema (·.source == node)
  | none => []

/-- The tables that no reference joins to another table. -/
def isolated (graph : ReferenceGraph) (schema : Schema) : List String :=
  (schema.tables.map Table.qualifiedName).filter fun name =>
    (graph.successors name ++ graph.predecessors name).all (· == name)

end ReferenceGraph

def Schema.declares (schema : Schema) (endpoint : Endpoint) : Bool :=
  match schema.table? endpoint.table endpoint.schema with
  | some table => table.hasColumn endpoint.column
  | none => false

/-- The references that lack a declared column at one of their ends. -/
def Schema.danglingReferences (schema : Schema) : List Reference :=
  schema.references.filter fun reference =>
    !schema.declares reference.source || !schema.declares reference.target

end TableScript
