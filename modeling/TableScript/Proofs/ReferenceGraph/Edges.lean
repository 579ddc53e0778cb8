import TableScript.Proofs.Model.WellFormed
import TableScript.ReferenceGraph.Basic

/-! The edges of the graph of a schema. As long as the references have different identifiers, each of them
has one edge, in their order, and no edge gives its place to another. In any case they join the nodes that
the references join: an edge gives its place only to one with the same ends. -/

namespace TableScript.ReferenceGraph

/-- The edge of a reference: it joins the nodes that the ends of the reference mean. -/
def edgeOf (schema : Schema) (numbered : Reference × Nat) : GraphEdge :=
  ⟨nodeName schema numbered.1.source, nodeName schema numbered.1.target, numbered.1, numbered.2⟩

variable {schema : Schema} {graph : ReferenceGraph} {edge : GraphEdge}

@[simp] theorem edges_addNode (graph : ReferenceGraph) (node : GraphNode) :
    (graph.addNode node).edges = graph.edges := by
  unfold addNode
  split <;> rfl

theorem edges_addEdge (new : edge.reference.id ∉ graph.edges.map (·.reference.id)) :
    (graph.addEdge edge).edges = graph.edges ++ [edge] := by
  have coincidesNot : graph.edges.any edge.coincides = false := by
    refine List.any_eq_false.mpr fun other member coincides => new ?_
    have same : edge.reference.id = other.reference.id := by
      simp only [GraphEdge.coincides, Bool.and_eq_true, beq_iff_eq] at coincides
      exact coincides.2
    rw [same]
    exact List.mem_map_of_mem member
  rw [addEdge, coincidesNot]
  rfl

theorem edges_addReference (schema : Schema) {numbered : Reference × Nat}
    (new : numbered.1.id ∉ graph.edges.map (·.reference.id)) :
    (addReference schema graph numbered).edges = graph.edges ++ [edgeOf schema numbered] := by
  unfold addReference
  rw [edges_addEdge (by simpa using new), edges_addNode, edges_addNode]
  rfl

theorem edges_foldl_addReference (graph : ReferenceGraph) (references : List (Reference × Nat))
    (distinct :
      (graph.edges.map (·.reference.id) ++ references.map fun numbered => numbered.1.id).Nodup) :
    (references.foldl (addReference schema) graph).edges =
      graph.edges ++ references.map (edgeOf schema) := by
  induction references generalizing graph with
  | nil => simp
  | cons numbered references ih =>
      rw [List.map_cons, List.nodup_append] at distinct
      have new : numbered.1.id ∉ graph.edges.map (·.reference.id) := fun member =>
        distinct.2.2 _ member _ List.mem_cons_self rfl
      have edges := edges_addReference schema new
      rw [List.foldl_cons, ih, edges, List.append_assoc]
      · rfl
      · rw [edges, List.map_append, List.append_assoc, List.nodup_append]
        exact distinct

theorem edges_ofTables (tables : List Table) : (ofTables tables).edges = [] := by
  have kept : ∀ graph : ReferenceGraph,
      (tables.foldl (fun graph table => graph.addNode ⟨table.qualifiedName, true⟩) graph).edges =
        graph.edges := by
    induction tables with
    | nil => exact fun _ => rfl
    | cons table tables ih => exact fun graph => (ih _).trans (edges_addNode graph _)
  exact kept {}

/-- The graph has one edge for each reference, between the nodes that its ends mean. -/
theorem edges_ofSchema (distinct : (schema.references.map Reference.id).Nodup) :
    (ofSchema schema).edges = schema.references.zipIdx.map (edgeOf schema) := by
  have ids : (schema.references.zipIdx.map fun numbered => numbered.1.id) =
      schema.references.map Reference.id := by
    calc (schema.references.zipIdx.map fun numbered => numbered.1.id)
        = (schema.references.zipIdx.map Prod.fst).map Reference.id := by rw [List.map_map]; rfl
      _ = schema.references.map Reference.id := by rw [List.zipIdx_map_fst]
  rw [ofSchema, edges_foldl_addReference, edges_ofTables, List.nil_append]
  rw [edges_ofTables, ids]
  exact distinct

/-- An edge leads from the one node to the other. -/
def Joins (graph : ReferenceGraph) (source target : String) : Prop :=
  ∃ edge ∈ graph.edges, edge.source = source ∧ edge.target = target

instance (graph : ReferenceGraph) (source target : String) : Decidable (graph.Joins source target) :=
  inferInstanceAs (Decidable (∃ edge ∈ graph.edges, edge.source = source ∧ edge.target = target))

theorem joins_iff {source target : String} :
    graph.Joins source target ↔
      (source, target) ∈ graph.edges.map fun edge => (edge.source, edge.target) := by
  simp [Joins]

theorem mem_successors {name next : String} : next ∈ graph.successors name ↔ graph.Joins name next := by
  simp [successors, Joins, List.mem_eraseDups, and_assoc]

theorem mem_predecessors {name previous : String} :
    previous ∈ graph.predecessors name ↔ graph.Joins previous name := by
  simp only [predecessors, Joins, List.mem_eraseDups, List.mem_map, List.mem_filter, beq_iff_eq]
  constructor
  · rintro ⟨edge, ⟨member, target⟩, source⟩
    exact ⟨edge, member, source, target⟩
  · rintro ⟨edge, member, source, target⟩
    exact ⟨edge, ⟨member, target⟩, source⟩

@[simp] theorem joins_addNode {source target : String} (node : GraphNode) :
    (graph.addNode node).Joins source target ↔ graph.Joins source target := by
  rw [Joins, edges_addNode, Joins]

theorem joins_addEdge {source target : String} :
    (graph.addEdge edge).Joins source target ↔
      graph.Joins source target ∨ edge.source = source ∧ edge.target = target := by
  rw [joins_iff, joins_iff, addEdge]
  cases present : graph.edges.any edge.coincides with
  | false =>
      simp [eq_comm]
  | true =>
      have sameEnds : ∀ other, edge.coincides other = true →
          (edge.source, edge.target) = (other.source, other.target) := by
        intro other coincides
        simp only [GraphEdge.coincides, Bool.and_eq_true, beq_iff_eq] at coincides
        exact Prod.ext coincides.1.1 coincides.1.2
      rw [if_pos rfl, map_modifyFirst edge.coincides (fun _ => edge)
        (fun edge => (edge.source, edge.target)) sameEnds]
      refine (or_iff_left_of_imp ?_).symm
      rintro ⟨rfl, rfl⟩
      obtain ⟨other, member, coincides⟩ := List.any_eq_true.mp present
      rw [sameEnds other coincides]
      exact List.mem_map_of_mem member

theorem joins_foldl_addReference {source target : String} (graph : ReferenceGraph)
    (references : List (Reference × Nat)) :
    (references.foldl (addReference schema) graph).Joins source target ↔
      graph.Joins source target ∨ ∃ numbered ∈ references,
        nodeName schema numbered.1.source = source ∧ nodeName schema numbered.1.target = target := by
  induction references generalizing graph with
  | nil => simp
  | cons numbered references ih =>
      rw [List.foldl_cons, ih, addReference, joins_addEdge, joins_addNode, joins_addNode, or_assoc]
      simp only [List.mem_cons, exists_eq_or_imp]

/-- Two nodes are joined by an edge exactly if they are by a reference, whatever the identifiers. -/
theorem joins_ofSchema {source target : String} :
    (ofSchema schema).Joins source target ↔ ∃ reference ∈ schema.references,
      nodeName schema reference.source = source ∧ nodeName schema reference.target = target := by
  have apart : ¬(ofTables schema.tables).Joins source target := by
    rw [Joins, edges_ofTables]
    simp
  rw [ofSchema, joins_foldl_addReference, or_iff_right apart]
  conv_rhs => rw [← List.zipIdx_map_fst 0 schema.references]
  simp only [List.mem_map, exists_exists_and_eq_and]

end TableScript.ReferenceGraph
