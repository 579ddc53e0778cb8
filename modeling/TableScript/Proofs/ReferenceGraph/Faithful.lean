import TableScript.Proofs.Read.Legible.Script
import TableScript.Proofs.Read.WellFormed
import TableScript.Proofs.ReferenceGraph.Nodes
import TableScript.ReferenceGraph.Cycle

namespace TableScript

namespace ReferenceGraph

variable {schema : Schema} {graph : ReferenceGraph} {name : String}

/-- The references of chosen edges, where the choice depends on nothing but the reference. -/
theorem referencesOf_ofSchema (distinct : (schema.references.map Reference.id).Nodup)
    {chosen : GraphEdge → Bool} {fits : Reference → Bool}
    (same : ∀ numbered, chosen (edgeOf schema numbered) = fits numbered.1) :
    (ofSchema schema).referencesOf schema chosen = schema.references.filter fits := by
  have positions : (((ofSchema schema).edges.filter chosen).map GraphEdge.position) =
      (schema.references.zipIdx.filter fun numbered => fits numbered.1).map Prod.snd := by
    rw [edges_ofSchema distinct, List.filter_map, List.map_map]
    exact congrArg (List.map Prod.snd) (List.filter_congr fun numbered _ => same numbered)
  -- A position belongs to one reference.
  have found : ∀ numbered ∈ schema.references.zipIdx,
      ((schema.references.zipIdx.filter fun other => fits other.1).map Prod.snd).contains numbered.2 =
        fits numbered.1 := by
    intro numbered member
    rw [Bool.eq_iff_iff, List.contains_iff_mem, List.mem_map]
    constructor
    · rintro ⟨other, chosen, samePlace⟩
      obtain ⟨among, fitting⟩ := List.mem_filter.mp chosen
      have here := List.mem_zipIdx_iff_getElem?.mp member
      have there := List.mem_zipIdx_iff_getElem?.mp among
      rw [samePlace, here] at there
      rwa [Option.some.inj there]
    · exact fun fitting => ⟨numbered, List.mem_filter.mpr ⟨member, fitting⟩, rfl⟩
  unfold referencesOf
  dsimp only
  rw [positions, List.filter_congr found]
  calc (schema.references.zipIdx.filter fun numbered => fits numbered.1).map Prod.fst
      = (schema.references.zipIdx.map Prod.fst).filter fits := List.filter_map.symm
    _ = schema.references.filter fits := by rw [List.zipIdx_map_fst]

theorem nodeOf?_of_mem (member : name ∈ graph.nodes.map GraphNode.name) :
    nodeOf? schema graph name = some name := by
  rw [nodeOf?, if_pos (hasNode_iff.mpr member)]

theorem referencesFrom_ofSchema (distinct : (schema.references.map Reference.id).Nodup)
    (member : name ∈ (ofSchema schema).nodes.map GraphNode.name) :
    (ofSchema schema).referencesFrom schema name =
      schema.references.filter fun reference => nodeName schema reference.source == name := by
  rw [referencesFrom, nodeOf?_of_mem member]
  exact referencesOf_ofSchema distinct fun _ => rfl

theorem referencedBy_ofSchema (distinct : (schema.references.map Reference.id).Nodup)
    (member : name ∈ (ofSchema schema).nodes.map GraphNode.name) :
    (ofSchema schema).referencedBy schema name =
      schema.references.filter fun reference => nodeName schema reference.target == name := by
  rw [referencedBy, nodeOf?_of_mem member]
  exact referencesOf_ofSchema distinct fun _ => rfl

/-- The reference joins the node to a different one. -/
def JoinsToOther (schema : Schema) (name : String) (reference : Reference) : Prop :=
  nodeName schema reference.source ≠ nodeName schema reference.target ∧
    (nodeName schema reference.source = name ∨ nodeName schema reference.target = name)

instance (schema : Schema) (name : String) (reference : Reference) :
    Decidable (JoinsToOther schema name reference) :=
  inferInstanceAs (Decidable (_ ∧ _))

theorem forall_edges_ofSchema (distinct : (schema.references.map Reference.id).Nodup)
    (holds : String → String → Prop) :
    (∀ edge ∈ (ofSchema schema).edges, holds edge.source edge.target) ↔
      ∀ reference ∈ schema.references,
        holds (nodeName schema reference.source) (nodeName schema reference.target) := by
  rw [edges_ofSchema distinct, List.forall_mem_map]
  conv_rhs => rw [← List.zipIdx_map_fst 0 schema.references, List.forall_mem_map]
  rfl

/-- A node has no neighbour but itself exactly if no reference joins it to a different one. -/
theorem all_neighbours_iff (distinct : (schema.references.map Reference.id).Nodup) (name : String) :
    ((ofSchema schema).successors name ++ (ofSchema schema).predecessors name).all (· == name) = true ↔
      ∀ reference ∈ schema.references, ¬JoinsToOther schema name reference := by
  have edges : ((ofSchema schema).successors name ++ (ofSchema schema).predecessors name).all
      (· == name) = true ↔
        ∀ edge ∈ (ofSchema schema).edges,
          ¬(edge.source ≠ edge.target ∧ (edge.source = name ∨ edge.target = name)) := by
    simp only [List.all_append, Bool.and_eq_true, List.all_eq_true, beq_iff_eq, mem_successors,
      mem_predecessors]
    constructor
    · rintro ⟨next, previous⟩ edge member ⟨different, leaves | arrives⟩
      · exact different (leaves.trans (next _ ⟨edge, member, leaves, rfl⟩).symm)
      · exact different ((previous _ ⟨edge, member, rfl, arrives⟩).trans arrives.symm)
    · intro alone
      refine ⟨?_, ?_⟩
      · rintro other ⟨edge, member, leaves, rfl⟩
        by_contra different
        exact alone edge member ⟨fun same => different (same.symm.trans leaves), .inl leaves⟩
      · rintro other ⟨edge, member, rfl, arrives⟩
        by_contra different
        exact alone edge member ⟨fun same => different (same.trans arrives), .inr arrives⟩
  rw [edges, forall_edges_ofSchema distinct fun source target =>
    ¬(source ≠ target ∧ (source = name ∨ target = name))]
  rfl

theorem isolated_ofSchema (distinct : (schema.references.map Reference.id).Nodup) :
    (ofSchema schema).isolated schema =
      (schema.tables.filter fun table => ∀ reference ∈ schema.references,
        ¬JoinsToOther schema table.qualifiedName reference).map Table.qualifiedName := by
  rw [isolated, List.filter_map]
  refine congrArg _ (List.filter_congr fun table _ => ?_)
  rw [Function.comp_apply, Bool.eq_iff_iff, all_neighbours_iff distinct, decide_eq_true_eq]

/-- Of the nodes, one and only one has the name. -/
theorem existsUnique_node (holds : String → Prop)
    (member : name ∈ (ofSchema schema).nodes.map GraphNode.name)
    (only : ∀ other ∈ (ofSchema schema).nodes.map GraphNode.name, holds other ↔ name = other) :
    ∃! node, node ∈ (ofSchema schema).nodes ∧ holds node.name := by
  obtain ⟨node, among, rfl⟩ := List.mem_map.mp member
  refine ⟨node, ⟨among, (only _ member).mpr rfl⟩, ?_⟩
  rintro other ⟨otherAmong, held⟩
  have same := (only _ (List.mem_map_of_mem otherAmong)).mp held
  exact (List.inj_on_of_nodup_map (nodup_names_ofSchema schema) among otherAmong same).symm

end ReferenceGraph

/-- Whatever the script and the policy, the endpoints that mean no table are made of words. -/
theorem Reading.tellsNodesApart_ofScript (policy : Policy) (script : String) (now : Timestamp) :
    ((ofScript policy script).schema now).TellsNodesApart := by
  refine Schema.tellsNodesApart (distinct_ofScript policy script)
    (fun _ member => wellFormed_of_mem_tables member) fun endpoint member undeclared => ?_
  obtain ⟨reference, among, anEnd⟩ := List.mem_flatMap.mp member
  have read := isRead_of_mem_references among
  rcases List.mem_pair.mp anEnd with rfl | rfl
  · cases inline : reference.inline with
    | false => exact (read.source inline).isDotless
    | true =>
        obtain ⟨table, declared, key, _⟩ := isExact_source among inline
        exact absurd (List.mem_map.mpr ⟨table, declared, key⟩)
          (Schema.key_not_mem_of_isUndeclared undeclared)
  · exact read.target.isDotless

/-- The graph of whatever was read loses nothing and has nothing twice. Its declared nodes are the tables,
in order; the others are the names at the ends of references that mean no table. The references from a
node and to it are those whose source and target mean it, in order, so that each starts at one node and
ends at one node. There are as many edges as references, and a table is isolated if no reference joins it
to a different node. -/
theorem Reading.referenceGraph_ofScript (policy : Policy) (script : String) (now : Timestamp) :
    let schema := (ofScript policy script).schema now
    let graph := ReferenceGraph.ofSchema schema
    (graph.nodes.filter (·.declared)).map GraphNode.name = schema.tables.map Table.qualifiedName ∧
      (graph.nodes.filter (!·.declared)).map GraphNode.name =
        ((schema.endpoints.filter fun endpoint => decide (schema.IsUndeclared endpoint)).map
          fun endpoint => qualify endpoint.schema endpoint.table).eraseDups ∧
      (∀ node ∈ graph.nodes,
        graph.referencesFrom schema node.name = schema.references.filter (fun reference =>
          ReferenceGraph.nodeName schema reference.source == node.name) ∧
        graph.referencedBy schema node.name = schema.references.filter (fun reference =>
          ReferenceGraph.nodeName schema reference.target == node.name)) ∧
      (∀ reference ∈ schema.references,
        (∃! node, node ∈ graph.nodes ∧ reference ∈ graph.referencesFrom schema node.name) ∧
          ∃! node, node ∈ graph.nodes ∧ reference ∈ graph.referencedBy schema node.name) ∧
      (∀ search, (graph.statistics schema search).references = schema.references.length) ∧
      graph.isolated schema =
        (schema.tables.filter fun table => ∀ reference ∈ schema.references,
          ¬ReferenceGraph.JoinsToOther schema table.qualifiedName reference).map
            Table.qualifiedName := by
  intro schema graph
  have distinct : (schema.references.map Reference.id).Nodup :=
    nodup_referenceIds policy script
  have apart : schema.TellsNodesApart := tellsNodesApart_ofScript policy script now
  have nodes := ReferenceGraph.nodes_ofSchema apart
  have ends : ∀ reference ∈ schema.references, ∀ endpoint ∈ [reference.source, reference.target],
      ReferenceGraph.nodeName schema endpoint ∈ graph.nodes.map GraphNode.name :=
    fun reference member endpoint anEnd => ReferenceGraph.nodeName_mem_ofSchema
      (List.mem_flatMap.mpr ⟨reference, member, anEnd⟩)
  refine ⟨?_, ?_, fun node member => ?_, fun reference member => ⟨?_, ?_⟩, ?_,
    ReferenceGraph.isolated_ofSchema distinct⟩
  · simp [graph, nodes, List.filter_append, List.filter_map, Function.comp_def]
  · simp [graph, nodes, List.filter_append, List.filter_map, Function.comp_def,
      ReferenceGraph.undeclaredNames, Endpoint.key, TableKey.qualified]
  · have named := List.mem_map_of_mem (f := GraphNode.name) member
    exact ⟨ReferenceGraph.referencesFrom_ofSchema distinct named,
      ReferenceGraph.referencedBy_ofSchema distinct named⟩
  · have source := ends reference member reference.source List.mem_cons_self
    refine ReferenceGraph.existsUnique_node (reference ∈ graph.referencesFrom schema ·) source
      fun name named => ?_
    rw [ReferenceGraph.referencesFrom_ofSchema distinct named, List.mem_filter, beq_iff_eq]
    exact and_iff_right member
  · have target := ends reference member reference.target (by simp)
    refine ReferenceGraph.existsUnique_node (reference ∈ graph.referencedBy schema ·) target
      fun name named => ?_
    rw [ReferenceGraph.referencedBy_ofSchema distinct named, List.mem_filter, beq_iff_eq]
    exact and_iff_right member
  · intro search
    change graph.edges.length = schema.references.length
    rw [ReferenceGraph.edges_ofSchema distinct, List.length_map, List.length_zipIdx]

end TableScript
