import TableScript.ReferenceGraph.Basic

/-! The cycles of a graph: closed paths that pass no node twice. Parallel edges are merged first. How the
cycles of the merged graph are found is left open; each of them is begun at its smallest node, and they are
put in the order of their names. -/

namespace TableScript

/-- A graph in which at most one edge leads from a node to another. -/
structure DirectedGraph where
  nodes : List String
  edges : List (String × String)
deriving Repr, DecidableEq

/-- A node and those that follow it until an edge leads back. -/
structure Circuit where
  first : String
  more : List String
deriving Repr, DecidableEq

namespace Circuit

def nodes (circuit : Circuit) : List String :=
  circuit.first :: circuit.more

def smallest (circuit : Circuit) : String :=
  circuit.more.foldl (fun least node => if node < least then node else least) circuit.first

/-- The nodes, begun at the smallest. -/
def fromSmallest (circuit : Circuit) : List String :=
  let start := circuit.nodes.idxOf circuit.smallest
  circuit.nodes.drop start ++ circuit.nodes.take start

end Circuit

/-- A way of finding the cycles of a graph, each begun at any of its nodes and in any order. -/
abbrev CycleSearch := DirectedGraph → List Circuit

namespace DirectedGraph

def successors (graph : DirectedGraph) (node : String) : List String :=
  (graph.edges.filter (·.1 == node)).map (·.2)

def predecessors (graph : DirectedGraph) (node : String) : List String :=
  (graph.edges.filter (·.2 == node)).map (·.1)

/-- The nodes of `remaining` that are in `pending` or from which edges lead there over nodes of
`remaining`. A node that is found does not remain, so that none is looked at twice. -/
def leadingTo (graph : DirectedGraph) (remaining pending : List String) : List String :=
  match pending with
  | [] => []
  | node :: others =>
      if _found : node ∈ remaining then
        node :: leadingTo graph (remaining.erase node) (graph.predecessors node ++ others)
      else leadingTo graph remaining others
termination_by (remaining.length, pending.length)
decreasing_by
  · have smaller := List.length_erase_of_mem _found
    have positive := List.length_pos_of_mem _found
    exact Prod.Lex.left _ _ (by omega)
  · exact Prod.Lex.right _ (by simp)

/-- The cycles that begin with `start` and the nodes of `path`, the last of them first, and go on over
nodes of `home`. The path may become longer by `room` nodes. -/
def circuitsAlong (graph : DirectedGraph) (start : String) (home : List String) :
    (room : Nat) → (path : List String) → List Circuit
  | room, path =>
      let here := path.headD start
      let closed := if (graph.successors here).contains start then [⟨start, path.reverse⟩] else []
      match room with
      | 0 => closed
      | room + 1 =>
          closed ++
            ((graph.successors here).filter fun next =>
                home.contains next && !path.contains next).flatMap fun next =>
              circuitsAlong graph start home room (next :: path)

/-- The cycles of which `start` is the smallest node. Only nodes from which there is a way back are
followed, so that a graph with many paths and few cycles is searched quickly. -/
def circuitsFrom (graph : DirectedGraph) (start : String) : List Circuit :=
  let greater := graph.nodes.filter fun name => decide (start < name)
  graph.circuitsAlong start (graph.leadingTo greater (graph.predecessors start))
    graph.nodes.length []

/-- One search: from each node, over greater nodes that are not yet on the path. -/
def circuits : CycleSearch := fun graph =>
  graph.nodes.flatMap graph.circuitsFrom

end DirectedGraph

namespace ReferenceGraph

/-- The graph with parallel edges merged, in the order of the nodes. -/
def merged (graph : ReferenceGraph) : DirectedGraph where
  nodes := graph.nodes.map (·.name)
  edges := graph.nodes.flatMap fun node =>
    (graph.successors node.name).map fun target => (node.name, target)

/-- The first list stands before the second in a dictionary, or is the same. -/
def notAfter : List String → List String → Bool
  | [], _ => true
  | _ :: _, [] => false
  | a :: first, b :: second => decide (a < b) || (a == b && notAfter first second)

/-- The cycles, each from its smallest node, in the order of their names. -/
def cycles (graph : ReferenceGraph) (search : CycleSearch := DirectedGraph.circuits) :
    List (List String) :=
  ((search graph.merged).map Circuit.fromSmallest).mergeSort notAfter

structure Statistics where
  tables : Nat
  references : Nat
  undeclaredTables : Nat
  danglingReferences : Nat
  isolatedTables : Nat
  cycles : Nat
deriving Repr, DecidableEq

def statistics (graph : ReferenceGraph) (schema : Schema)
    (search : CycleSearch := DirectedGraph.circuits) : Statistics :=
  { tables := schema.tables.length
    references := graph.edges.length
    undeclaredTables := graph.nodes.countP fun node => !node.declared
    danglingReferences := schema.danglingReferences.length
    isolatedTables := (graph.isolated schema).length
    cycles := (graph.cycles search).length }

end ReferenceGraph

end TableScript
