import TableScript.Proofs.Grammar.ReferenceLine
import TableScript.Proofs.Model.Lookup
import TableScript.Proofs.ReferenceGraph.Edges
import TableScript.Proofs.Write.Column

namespace TableScript

section Qualify

variable {schema other : Option String} {name second : String}

/-- A qualified name falls apart at its last dot, so that it tells its parts. -/
theorem qualify_inj (dotless : '.' ∉ name.toList) (secondDotless : '.' ∉ second.toList)
    (given : schema ≠ some "") (otherGiven : other ≠ some "")
    (same : qualify schema name = qualify other second) : schema = other ∧ name = second := by
  have characters := congrArg String.toList same
  have cut : ∀ (before : String) {behind : String}, '.' ∉ behind.toList →
      Text.cutAtLast '.' (before ++ "." ++ behind).toList = some (before.toList, behind.toList) := by
    intro before behind last
    have text : (before ++ "." ++ behind).toList = before.toList ++ '.' :: behind.toList := by simp
    rw [text, Text.cutAtLast_append last]
  cases schema with
  | none =>
      cases other with
      | none => exact ⟨rfl, same⟩
      | some qualifier =>
          have written : qualifier ≠ "" := fun empty => otherGiven (congrArg some empty)
          rw [qualify, qualify, if_neg written] at same
          exact absurd (by simp [same]) dotless
  | some qualifier =>
      have written : qualifier ≠ "" := fun empty => given (congrArg some empty)
      cases other with
      | none =>
          rw [qualify, qualify, if_neg written] at same
          exact absurd (by simp [← same]) secondDotless
      | some another =>
          have otherWritten : another ≠ "" := fun empty => otherGiven (congrArg some empty)
          rw [qualify, qualify, if_neg written, if_neg otherWritten] at same
          have parts := congrArg (Text.cutAtLast '.' ·.toList) same
          simp only [cut qualifier dotless, cut another secondDotless, Option.some.injEq,
            Prod.mk.injEq, String.toList_inj] at parts
          exact ⟨congrArg some parts.1, parts.2⟩

end Qualify

/-- The parts of the key hold no dot where it would be mistaken for the one between them. -/
structure TableKey.IsDotless (key : TableKey) : Prop where
  name : '.' ∉ key.name.toList
  schema : key.schema ≠ some ""

def TableKey.qualified (key : TableKey) : String :=
  qualify key.schema key.name

theorem TableKey.IsDotless.eq_of_qualified {key other : TableKey} (dotless : key.IsDotless)
    (otherDotless : other.IsDotless) (same : key.qualified = other.qualified) : key = other := by
  obtain ⟨schema, name⟩ := qualify_inj dotless.name otherDotless.name dotless.schema
    otherDotless.schema same
  cases key
  cases other
  exact TableKey.mk.injEq .. ▸ ⟨schema, name⟩

theorem IsPlainName.dot_not_mem {name : String} (plain : IsPlainName name) : '.' ∉ name.toList :=
  fun dot => absurd (plain.isIdentifierPart '.' dot) (by decide)

theorem Table.WellFormed.isDotless {table : Table} (form : table.WellFormed) :
    table.key.IsDotless where
  name := form.named.dot_not_mem
  schema := by
    intro empty
    obtain ⟨_, _, characters, _⟩ := (form.qualified "" empty).exists_parts
    cases characters

/-- What an endpoint says of its table. -/
def Endpoint.key (endpoint : Endpoint) : TableKey :=
  ⟨endpoint.schema, endpoint.table⟩

theorem Endpoint.IsWordy.isDotless {endpoint : Endpoint} (wordy : endpoint.IsWordy) :
    endpoint.key.IsDotless where
  name := fun dot => by
    have isWord := wordy.table.2 '.' dot
    rw [isWord_dot] at isWord
    cases isWord
  schema := fun empty => (wordy.schema "" empty).1 rfl

namespace Schema

/-- The ends of the references, in their order. -/
def endpoints (schema : Schema) : List Endpoint :=
  schema.references.flatMap fun reference => [reference.source, reference.target]

/-- The schema has no table that the endpoint means. -/
def IsUndeclared (schema : Schema) (endpoint : Endpoint) : Prop :=
  schema.table? endpoint.table endpoint.schema = none

instance (schema : Schema) (endpoint : Endpoint) : Decidable (schema.IsUndeclared endpoint) :=
  inferInstanceAs (Decidable (_ = none))

/-- The nodes of the schema are told apart by their names: no two tables have the same one, and no
table has the name of an endpoint that means none. -/
structure TellsNodesApart (schema : Schema) : Prop where
  distinct : (schema.tables.map Table.qualifiedName).Nodup
  undeclared : ∀ endpoint ∈ schema.endpoints, schema.IsUndeclared endpoint →
    endpoint.key.qualified ∉ schema.tables.map Table.qualifiedName

variable {schema : Schema} {endpoint : Endpoint}

theorem key_not_mem_of_isUndeclared (undeclared : schema.IsUndeclared endpoint) :
    endpoint.key ∉ schema.tables.map Table.key := by
  intro member
  obtain ⟨table, among, key⟩ := List.mem_map.mp member
  obtain ⟨sameSchema, sameName⟩ := TableKey.mk.inj key
  have absent := List.find?_eq_none.mp undeclared table among
  cases written : endpoint.schema <;> simp [sameName, sameSchema, written] at absent

theorem tellsNodesApart (distinct : (schema.tables.map Table.key).Nodup)
    (tables : ∀ table ∈ schema.tables, table.WellFormed)
    (endpoints : ∀ endpoint ∈ schema.endpoints, schema.IsUndeclared endpoint →
      endpoint.key.IsDotless) : schema.TellsNodesApart where
  distinct := by
    have dotless : ∀ key ∈ schema.tables.map Table.key, key.IsDotless := by
      intro key member
      obtain ⟨table, among, rfl⟩ := List.mem_map.mp member
      exact (tables table among).isDotless
    have names : schema.tables.map Table.qualifiedName =
        (schema.tables.map Table.key).map TableKey.qualified := by
      rw [List.map_map]
      rfl
    rw [names]
    exact distinct.map_on fun key member other among same =>
      (dotless key member).eq_of_qualified (dotless other among) same
  undeclared := by
    intro endpoint member undeclared found
    obtain ⟨table, among, same⟩ := List.mem_map.mp found
    have key := (tables table among).isDotless.eq_of_qualified (endpoints endpoint member undeclared) same
    exact key_not_mem_of_isUndeclared undeclared (List.mem_map.mpr ⟨table, among, key⟩)

end Schema

namespace ReferenceGraph

variable {schema : Schema} {graph : ReferenceGraph} {node : GraphNode} {endpoint : Endpoint}

theorem hasNode_iff {name : String} :
    graph.hasNode name = true ↔ name ∈ graph.nodes.map GraphNode.name := by
  simp [hasNode]

theorem nodes_addNode (graph : ReferenceGraph) (node : GraphNode) :
    (graph.addNode node).nodes =
      if node.name ∈ graph.nodes.map GraphNode.name then graph.nodes else graph.nodes ++ [node] := by
  simp only [addNode, hasNode_iff]
  split <;> rfl

@[simp] theorem nodes_addEdge (graph : ReferenceGraph) (edge : GraphEdge) :
    (graph.addEdge edge).nodes = graph.nodes := by
  unfold addEdge
  split <;> rfl

theorem nodup_names_addNode (distinct : (graph.nodes.map GraphNode.name).Nodup) (node : GraphNode) :
    ((graph.addNode node).nodes.map GraphNode.name).Nodup := by
  rw [nodes_addNode]
  split
  · exact distinct
  · rename_i fresh
    rw [List.map_append, List.nodup_append]
    refine ⟨distinct, by simp, fun name member other single same => fresh ?_⟩
    rwa [← List.mem_singleton.mp single, ← same]

/-- No two nodes of the graph have the same name. -/
theorem nodup_names_ofSchema (schema : Schema) :
    ((ofSchema schema).nodes.map GraphNode.name).Nodup := by
  let apart (graph : ReferenceGraph) : Prop := (graph.nodes.map GraphNode.name).Nodup
  have tables : apart (ofTables schema.tables) :=
    List.foldlRecOn (motive := apart) schema.tables _ List.nodup_nil fun graph distinct table _ =>
      nodup_names_addNode distinct ⟨table.qualifiedName, true⟩
  refine List.foldlRecOn (motive := apart) schema.references.zipIdx _ tables ?_
  intro graph distinct numbered _
  have ends := nodup_names_addNode
    (nodup_names_addNode distinct ⟨nodeName schema numbered.1.source, false⟩)
    ⟨nodeName schema numbered.1.target, false⟩
  rw [← nodes_addEdge] at ends
  exact ends

/-- Tables of different names become one node each. -/
theorem nodes_ofTables {tables : List Table} (distinct : (tables.map Table.qualifiedName).Nodup) :
    (ofTables tables).nodes = tables.map fun table => ⟨table.qualifiedName, true⟩ := by
  have added : ∀ graph : ReferenceGraph,
      (graph.nodes.map GraphNode.name ++ tables.map Table.qualifiedName).Nodup →
      (tables.foldl (fun graph table => graph.addNode ⟨table.qualifiedName, true⟩) graph).nodes =
        graph.nodes ++ tables.map fun table => ⟨table.qualifiedName, true⟩ := by
    clear distinct
    induction tables with
    | nil => simp
    | cons table tables ih =>
        intro graph distinct
        have fresh : table.qualifiedName ∉ graph.nodes.map GraphNode.name := fun member =>
          (List.nodup_append.mp distinct).2.2 _ member _ List.mem_cons_self rfl
        have nodes := nodes_addNode graph ⟨table.qualifiedName, true⟩
        rw [if_neg fresh] at nodes
        rw [List.foldl_cons, ih, nodes, List.append_assoc]
        · rfl
        · rw [nodes, List.map_append, List.append_assoc]
          exact distinct
  simpa [ofTables] using added {} (by simpa using distinct)

/-- Nodes that are not declared, added one after the other: those whose names are not there yet, each
once. -/
theorem nodes_foldl_addNode (graph : ReferenceGraph) (names : List String) :
    (names.foldl (fun graph name => graph.addNode ⟨name, false⟩) graph).nodes =
      graph.nodes ++
        (names.filter (· ∉ graph.nodes.map GraphNode.name)).eraseDups.map fun name => ⟨name, false⟩ := by
  induction names generalizing graph with
  | nil => simp
  | cons name names ih =>
      have nodes := nodes_addNode graph ⟨name, false⟩
      rw [List.foldl_cons, ih]
      by_cases known : name ∈ graph.nodes.map GraphNode.name
      · rw [if_pos known] at nodes
        rw [nodes, List.filter_cons_of_neg (by simpa using known)]
      · -- What is behind the name must differ from it as well.
        rw [if_neg known] at nodes
        have others : names.filter (· ∉ (graph.addNode ⟨name, false⟩).nodes.map GraphNode.name) =
            (names.filter (· ∉ graph.nodes.map GraphNode.name)).filter fun other => !other == name := by
          rw [nodes, List.filter_filter]
          refine List.filter_congr fun other _ => ?_
          by_cases same : other = name <;> simp [same]
        rw [others, nodes, List.filter_cons_of_pos (by simpa using known), List.eraseDups_cons,
          List.map_cons, List.append_assoc]
        rfl

theorem nodes_foldl_addReference (graph : ReferenceGraph) (references : List (Reference × Nat)) :
    (references.foldl (addReference schema) graph).nodes =
      ((references.flatMap fun numbered =>
        [nodeName schema numbered.1.source, nodeName schema numbered.1.target]).foldl
          (fun graph name => graph.addNode ⟨name, false⟩) graph).nodes := by
  have nodesOnly : ∀ (names : List String) (graph other : ReferenceGraph), graph.nodes = other.nodes →
      (names.foldl (fun graph name => graph.addNode ⟨name, false⟩) graph).nodes =
        (names.foldl (fun graph name => graph.addNode ⟨name, false⟩) other).nodes := by
    intro names graph other same
    rw [nodes_foldl_addNode, nodes_foldl_addNode, same]
  induction references generalizing graph with
  | nil => rfl
  | cons numbered references ih =>
      rw [List.foldl_cons, ih, List.flatMap_cons, List.foldl_append]
      exact nodesOnly _ _ _ (nodes_addEdge _ _)

theorem ends_zipIdx (schema : Schema) :
    (schema.references.zipIdx.flatMap fun numbered =>
      [nodeName schema numbered.1.source, nodeName schema numbered.1.target]) =
        schema.endpoints.map (nodeName schema) := by
  calc (schema.references.zipIdx.flatMap fun numbered =>
        [nodeName schema numbered.1.source, nodeName schema numbered.1.target])
      = (schema.references.zipIdx.map Prod.fst).flatMap fun reference =>
          [nodeName schema reference.source, nodeName schema reference.target] := by
        rw [List.flatMap_map]
    _ = schema.endpoints.map (nodeName schema) := by
        rw [List.zipIdx_map_fst, Schema.endpoints, List.map_flatMap]
        rfl

/-- The ends of references mean nodes of the graph. -/
theorem nodeName_mem_ofSchema (member : endpoint ∈ schema.endpoints) :
    nodeName schema endpoint ∈ (ofSchema schema).nodes.map GraphNode.name := by
  have among : nodeName schema endpoint ∈ schema.endpoints.map (nodeName schema) :=
    List.mem_map_of_mem member
  rw [ofSchema, nodes_foldl_addReference, ends_zipIdx, nodes_foldl_addNode, List.map_append,
    List.map_map, List.mem_append]
  by_cases declared : nodeName schema endpoint ∈ (ofTables schema.tables).nodes.map GraphNode.name
  · exact .inl declared
  · refine .inr (List.mem_map.mpr ⟨_, List.mem_eraseDups.mpr (List.mem_filter.mpr ⟨among, ?_⟩), rfl⟩)
    exact decide_eq_true declared

theorem nodeName_of_isUndeclared (undeclared : schema.IsUndeclared endpoint) :
    nodeName schema endpoint = endpoint.key.qualified := by
  unfold Schema.IsUndeclared at undeclared
  rw [nodeName, undeclared]
  rfl

/-- An endpoint means a node that no table has exactly if it means no table. -/
theorem nodeName_mem_iff (apart : schema.TellsNodesApart) (member : endpoint ∈ schema.endpoints) :
    nodeName schema endpoint ∈ schema.tables.map Table.qualifiedName ↔
      ¬schema.IsUndeclared endpoint := by
  by_cases undeclared : schema.IsUndeclared endpoint
  · rw [nodeName_of_isUndeclared undeclared]
    exact iff_of_false (apart.undeclared endpoint member undeclared) (not_not_intro undeclared)
  · obtain ⟨table, found⟩ := Option.ne_none_iff_exists'.mp undeclared
    rw [nodeName, found]
    exact iff_of_true (List.mem_map_of_mem (List.mem_of_find?_eq_some found)) undeclared

/-- The names at the ends of references that mean no table, each once, in the order in which they come
up. -/
def undeclaredNames (schema : Schema) : List String :=
  ((schema.endpoints.filter fun endpoint => decide (schema.IsUndeclared endpoint)).map
    fun endpoint => endpoint.key.qualified).eraseDups

/-- The nodes of a schema: its tables, then the names that are not declared. -/
theorem nodes_ofSchema (apart : schema.TellsNodesApart) :
    (ofSchema schema).nodes =
      (schema.tables.map fun table => ⟨table.qualifiedName, true⟩) ++
        (undeclaredNames schema).map fun name => ⟨name, false⟩ := by
  have declared : (ofTables schema.tables).nodes.map GraphNode.name =
      schema.tables.map Table.qualifiedName := by
    rw [nodes_ofTables apart.distinct, List.map_map]
    rfl
  have undeclared : (schema.endpoints.map (nodeName schema)).filter
      (· ∉ schema.tables.map Table.qualifiedName) =
        (schema.endpoints.filter fun endpoint => decide (schema.IsUndeclared endpoint)).map
          fun endpoint => endpoint.key.qualified := by
    rw [List.filter_map]
    have fits : schema.endpoints.filter
        ((fun name => decide (name ∉ schema.tables.map Table.qualifiedName)) ∘ nodeName schema) =
          schema.endpoints.filter fun endpoint => decide (schema.IsUndeclared endpoint) := by
      refine List.filter_congr fun endpoint member => ?_
      rw [Function.comp_apply, decide_eq_decide, nodeName_mem_iff apart member, not_not]
    rw [fits]
    refine List.map_congr_left fun endpoint member => ?_
    exact nodeName_of_isUndeclared (of_decide_eq_true (List.mem_filter.mp member).2)
  rw [ofSchema, nodes_foldl_addReference, nodes_foldl_addNode, declared, ends_zipIdx, undeclared,
    nodes_ofTables apart.distinct]
  rfl

end ReferenceGraph

end TableScript
