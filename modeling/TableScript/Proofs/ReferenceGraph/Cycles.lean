import Mathlib.Data.List.Lex
import TableScript.Proofs.ReferenceGraph.CycleSearch
import TableScript.Proofs.ReferenceGraph.Nodes

namespace TableScript.ReferenceGraph

variable {schema : Schema} {graph : ReferenceGraph} {search : CycleSearch} {nodes : List String}

theorem nodup_eraseDups (list : List String) : list.eraseDups.Nodup := by
  induction length : list.length using Nat.strong_induction_on generalizing list with
  | _ length ih =>
    cases list with
    | nil => simp
    | cons first rest =>
        rw [List.eraseDups_cons, List.nodup_cons, List.mem_eraseDups]
        refine ⟨by simp, ih _ ?_ _ rfl⟩
        rw [← length, List.length_cons]
        exact Nat.lt_succ_of_le (List.length_filter_le _ _)

theorem joins_merged {source target : String} :
    graph.merged.Joins source target ↔
      source ∈ graph.nodes.map GraphNode.name ∧ graph.Joins source target := by
  simp only [DirectedGraph.Joins, merged, List.mem_flatMap, List.mem_map, Prod.mk.injEq, mem_successors]
  constructor
  · rintro ⟨node, member, next, joined, rfl, rfl⟩
    exact ⟨⟨node, member, rfl⟩, joined⟩
  · rintro ⟨⟨node, member, rfl⟩, joined⟩
    exact ⟨node, member, target, joined, rfl, rfl⟩

theorem nodup_edges_merged (distinct : (graph.nodes.map GraphNode.name).Nodup) :
    graph.merged.edges.Nodup := by
  refine List.nodup_flatMap.mpr ⟨fun node _ => ?_, ?_⟩
  · exact (nodup_eraseDups _).map fun target other same => (Prod.mk.inj same).2
  · refine (List.pairwise_map.mp distinct).imp fun {node other} different => ?_
    refine List.disjoint_left.mpr fun edge found again => different ?_
    obtain ⟨_, _, rfl⟩ := List.mem_map.mp found
    obtain ⟨_, _, same⟩ := List.mem_map.mp again
    exact (Prod.mk.inj same).1.symm

/-- In the merged graph of a schema an edge leads from node to node exactly if a reference does. -/
theorem joins_merged_ofSchema {source target : String} :
    (ofSchema schema).merged.Joins source target ↔ ∃ reference ∈ schema.references,
      nodeName schema reference.source = source ∧ nodeName schema reference.target = target := by
  rw [joins_merged, joins_ofSchema]
  refine and_iff_right_of_imp ?_
  rintro ⟨reference, member, rfl, _⟩
  exact nodeName_mem_ofSchema (List.mem_flatMap.mpr ⟨reference, member, List.mem_cons_self⟩)

theorem wellFormed_merged_ofSchema (schema : Schema) : (ofSchema schema).merged.WellFormed where
  nodes := nodup_names_ofSchema schema
  edges := nodup_edges_merged (nodup_names_ofSchema schema)
  ends source target joined := by
    obtain ⟨reference, member, rfl, rfl⟩ := joins_merged_ofSchema.mp joined
    have isEnd : ∀ endpoint ∈ [reference.source, reference.target],
        nodeName schema endpoint ∈ (ofSchema schema).merged.nodes := fun endpoint among =>
      nodeName_mem_ofSchema (List.mem_flatMap.mpr ⟨reference, member, among⟩)
    exact ⟨isEnd _ List.mem_cons_self, isEnd _ (by simp)⟩

/-- Whatever the search, the cycles are listed as they are begun at their smallest nodes. -/
theorem mem_cycles (enumerates : search.Enumerates) (wellFormed : graph.merged.WellFormed) :
    nodes ∈ graph.cycles search ↔ graph.merged.IsCycle nodes ∧ StartsSmallest nodes := by
  rw [cycles, List.mem_mergeSort, List.mem_map]
  constructor
  · rintro ⟨circuit, found, rfl⟩
    have cycle := enumerates.sound wellFormed circuit found
    exact ⟨cycle.of_isRotated circuit.isRotated_fromSmallest.symm,
      circuit.startsSmallest_fromSmallest cycle.nodup⟩
  · rintro ⟨cycle, smallest⟩
    obtain ⟨circuit, found, rotated⟩ := enumerates.complete wellFormed nodes cycle
    have nodup := (enumerates.sound wellFormed circuit found).nodup
    have begun := circuit.isRotated_fromSmallest
    exact ⟨circuit, found, (circuit.startsSmallest_fromSmallest nodup).eq_of_isRotated
      (begun.nodup_iff.mpr nodup) smallest (begun.trans rotated)⟩

theorem notAfter_iff {first second : List String} : notAfter first second = true ↔ first ≤ second := by
  rw [← not_lt]
  induction first generalizing second with
  | nil => simp [notAfter]
  | cons a first ih =>
      cases second with
      | nil => simp [notAfter]
      | cons b second =>
          rw [notAfter, Bool.or_eq_true, Bool.and_eq_true, decide_eq_true_eq, beq_iff_eq, ih,
            List.cons_lt_cons_iff, not_or, not_and]
          rcases lt_trichotomy a b with before | rfl | after
          · exact iff_of_true (.inl before) ⟨before.asymm, fun same => absurd same before.ne'⟩
          · simp only [lt_irrefl, false_or, true_and, not_false_eq_true, true_implies]
          · exact iff_of_false (fun other => other.elim after.asymm fun same => after.ne' same.1)
              fun neither => neither.1 after

/-- The cycles stand in the order of their names, each once. -/
theorem pairwise_cycles (enumerates : search.Enumerates) (wellFormed : graph.merged.WellFormed) :
    (graph.cycles search).Pairwise (· < ·) := by
  have sorted : (graph.cycles search).Pairwise (· ≤ ·) := by
    refine (List.pairwise_mergeSort ?_ ?_ _).imp notAfter_iff.mp
    · intro first second third before after
      exact notAfter_iff.mpr ((notAfter_iff.mp before).trans (notAfter_iff.mp after))
    · intro first second
      rw [Bool.or_eq_true, notAfter_iff, notAfter_iff]
      exact le_total first second
  have nodup : (graph.cycles search).Nodup := by
    refine (List.mergeSort_perm _ _).nodup_iff.mpr (List.pairwise_map.mpr ?_)
    refine (enumerates.once wellFormed).imp fun {first second} apart same => apart ?_
    have begun := first.isRotated_fromSmallest.symm
    rw [same] at begun
    exact begun.trans second.isRotated_fromSmallest
  exact (sorted.and nodup).imp fun ⟨before, different⟩ => lt_of_le_of_ne before different

/-- Graphs that join the same nodes have the same cycles, in the same order. -/
theorem cycles_eq (enumerates : search.Enumerates) {first second : ReferenceGraph}
    (firstFormed : first.merged.WellFormed) (secondFormed : second.merged.WellFormed)
    (same : ∀ source target, first.merged.Joins source target ↔ second.merged.Joins source target) :
    first.cycles search = second.cycles search := by
  have joins : first.merged.Joins = second.merged.Joins := by
    funext source target
    exact propext (same source target)
  have isCycle : ∀ nodes, first.merged.IsCycle nodes ↔ second.merged.IsCycle nodes := fun nodes =>
    ⟨fun cycle => ⟨cycle.nonempty, cycle.nodup, joins ▸ cycle.chain⟩,
      fun cycle => ⟨cycle.nonempty, cycle.nodup, joins ▸ cycle.chain⟩⟩
  have firstSorted := pairwise_cycles enumerates firstFormed
  have secondSorted := pairwise_cycles enumerates secondFormed
  have perm : (first.cycles search).Perm (second.cycles search) := by
    refine (List.perm_ext_iff_of_nodup firstSorted.nodup secondSorted.nodup).mpr fun nodes => ?_
    rw [mem_cycles enumerates firstFormed, mem_cycles enumerates secondFormed, isCycle]
  exact perm.eq_of_pairwise (fun _ _ _ _ before after => absurd before after.asymm) firstSorted secondSorted

/-- With any search that finds each cycle once, however it is begun, every cycle of a schema is listed once,
from its smallest node, and nothing else is; the list is in order. The cycles are those of the graph in
which an edge leads from node to node if a reference does. There is none exactly if edges lead from no node
back to it, and the order of the references does not matter. -/
theorem cycles_ofSchema (enumerates : search.Enumerates) (schema : Schema) :
    let merged := (ofSchema schema).merged
    let cycles := (ofSchema schema).cycles search
    (merged.edges.Nodup ∧ ∀ source target, merged.Joins source target ↔
      ∃ reference ∈ schema.references,
        nodeName schema reference.source = source ∧ nodeName schema reference.target = target) ∧
      (∀ nodes ∈ cycles, merged.IsCycle nodes ∧ StartsSmallest nodes) ∧
      cycles.Pairwise (· < ·) ∧
      (∀ nodes, merged.IsCycle nodes → ∃! listed, listed ∈ cycles ∧ listed ~r nodes) ∧
      (cycles = [] ↔ ∀ node, ¬Relation.TransGen merged.Joins node node) ∧
      ∀ references, schema.references.Perm references →
        (ofSchema { schema with references }).cycles search = cycles := by
  intro merged cycles
  have wellFormed : merged.WellFormed := wellFormed_merged_ofSchema schema
  have listed_iff : ∀ nodes, nodes ∈ cycles ↔ merged.IsCycle nodes ∧ StartsSmallest nodes :=
    fun _ => mem_cycles enumerates wellFormed
  have listedOnce : ∀ nodes, merged.IsCycle nodes → ∃! listed, listed ∈ cycles ∧ listed ~r nodes := by
    intro nodes cycle
    obtain ⟨listed, rotated, smallest⟩ := cycle.exists_startsSmallest
    refine ⟨listed, ⟨(listed_iff _).mpr ⟨cycle.of_isRotated rotated.symm, smallest⟩, rotated⟩, ?_⟩
    rintro other ⟨member, otherRotated⟩
    obtain ⟨otherCycle, otherSmallest⟩ := (listed_iff _).mp member
    exact otherSmallest.eq_of_isRotated otherCycle.nodup smallest (otherRotated.trans rotated.symm)
  refine ⟨⟨wellFormed.edges, fun _ _ => joins_merged_ofSchema⟩, fun nodes => (listed_iff nodes).mp,
    pairwise_cycles enumerates wellFormed, listedOnce, ?_, fun references permuted => ?_⟩
  · rw [← not_exists, ← DirectedGraph.exists_isCycle_iff, List.eq_nil_iff_forall_not_mem, not_exists]
    constructor
    · intro unlisted nodes cycle
      obtain ⟨listed, ⟨member, _⟩, _⟩ := listedOnce nodes cycle
      exact unlisted listed member
    · exact fun acyclic nodes member => acyclic nodes ((listed_iff nodes).mp member).1
  · refine cycles_eq enumerates (wellFormed_merged_ofSchema _) wellFormed fun source target => ?_
    rw [joins_merged_ofSchema, joins_merged_ofSchema]
    exact ⟨fun ⟨reference, member, joined⟩ => ⟨reference, permuted.mem_iff.mpr member, joined⟩,
      fun ⟨reference, member, joined⟩ => ⟨reference, permuted.mem_iff.mp member, joined⟩⟩

/-- Two tables that refer to each other, one of them twice, and one that is not declared. -/
theorem cycles_ofSchema_mutual :
    let joining (id source target : String) : Reference :=
      { id, source := { table := source, column := "x" }, target := { table := target, column := "x" } }
    let schema : Schema :=
      { tables := [{ id := "t0", name := "b" }, { id := "t1", name := "a" }]
        references := [joining "r0" "b" "a", joining "r1" "a" "b", joining "r2" "a" "b", joining "r3" "a" "c"]
        metadata := .fresh "" }
    let permuted := [joining "r1" "a" "b", joining "r0" "b" "a", joining "r2" "a" "b", joining "r3" "a" "c"]
    CycleSearch.Enumerates DirectedGraph.circuits ∧
      (ofSchema schema).merged.edges = [("b", "a"), ("a", "b"), ("a", "c")] ∧
      (ofSchema schema).merged.IsCycle ["b", "a"] ∧
      (∃ listed ∈ (ofSchema schema).cycles, listed ~r ["b", "a"] ∧ StartsSmallest listed) ∧
      (ofSchema { schema with references := permuted }).cycles = (ofSchema schema).cycles := by
  intro joining schema permuted
  have enumerates := DirectedGraph.enumerates_circuits
  have cycle : (ofSchema schema).merged.IsCycle ["b", "a"] :=
    DirectedGraph.isCycle_cons.mpr (by decide +kernel)
  obtain ⟨_, sound, _, once, _, perm⟩ := cycles_ofSchema enumerates schema
  obtain ⟨listed, ⟨member, rotated⟩, _⟩ := once ["b", "a"] cycle
  exact ⟨enumerates, by decide +kernel, cycle, ⟨listed, member, rotated, (sound listed member).2⟩,
    perm permuted (List.Perm.swap _ _ _)⟩

end TableScript.ReferenceGraph
