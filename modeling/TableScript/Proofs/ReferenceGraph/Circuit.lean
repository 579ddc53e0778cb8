import Mathlib.Data.List.Cycle
import Mathlib.Data.String.Basic
import Mathlib.Logic.Relation
import TableScript.ReferenceGraph.Cycle

namespace TableScript

/-- The nodes behind the first are greater. -/
def StartsSmallest (nodes : List String) : Prop :=
  ∃ start more, nodes = start :: more ∧ ∀ node ∈ more, start < node

theorem cons_eq_of_isRotated {start : String} {more others : List String} (nodup : (start :: more).Nodup)
    (rotated : start :: more ~r start :: others) : start :: more = start :: others := by
  obtain ⟨count, bound, turned⟩ := List.isRotated_iff_mod.mp rotated
  rcases Nat.lt_or_eq_of_le bound with inside | whole
  · have head : (start :: more)[count]? = (start :: more)[0]? := by
      rw [← List.head?_rotate inside, turned]
      rfl
    rw [(List.getElem?_inj inside nodup).mp head, List.rotate_zero] at turned
    exact turned
  · rw [whole, List.rotate_length] at turned
    exact turned

/-- The smallest node is the first in one order of the nodes only. -/
theorem StartsSmallest.eq_of_isRotated {nodes others : List String} (nodup : nodes.Nodup)
    (smallest : StartsSmallest nodes) (otherSmallest : StartsSmallest others) (rotated : nodes ~r others) :
    nodes = others := by
  obtain ⟨start, more, rfl, least⟩ := smallest
  obtain ⟨otherStart, otherMore, rfl, otherLeast⟩ := otherSmallest
  have same : start = otherStart := by
    rcases List.mem_cons.mp (rotated.mem_iff.mp List.mem_cons_self) with same | later
    · exact same
    · rcases List.mem_cons.mp (rotated.symm.mem_iff.mp List.mem_cons_self) with same | otherLater
      · exact same.symm
      · exact absurd (otherLeast _ later) (least _ otherLater).asymm
  subst same
  exact cons_eq_of_isRotated nodup rotated

namespace Circuit

theorem smallest_mem (circuit : Circuit) : circuit.smallest ∈ circuit.nodes := by
  obtain ⟨first, more⟩ := circuit
  induction more generalizing first with
  | nil => exact List.mem_cons_self
  | cons node more ih =>
      have inside := ih (if node < first then node else first)
      rw [nodes] at inside ⊢
      rcases List.mem_cons.mp inside with here | behind
      · have chosen : (Circuit.mk first (node :: more)).smallest =
            if node < first then node else first := here
        rw [chosen]
        split <;> simp
      · exact List.mem_cons_of_mem _ (List.mem_cons_of_mem _ behind)

theorem smallest_le (circuit : Circuit) : ∀ node ∈ circuit.nodes, circuit.smallest ≤ node := by
  obtain ⟨first, more⟩ := circuit
  induction more generalizing first with
  | nil => exact fun node member => (List.mem_singleton.mp member).ge
  | cons next more ih =>
      have least := ih (if next < first then next else first)
      have below : (Circuit.mk first (next :: more)).smallest ≤ if next < first then next else first :=
        least _ List.mem_cons_self
      intro node member
      rcases List.mem_cons.mp member with rfl | behind
      · refine below.trans ?_
        split
        · rename_i smaller
          exact smaller.le
        · exact le_rfl
      · rcases List.mem_cons.mp behind with rfl | later
        · refine below.trans ?_
          split
          · exact le_rfl
          · rename_i greater
            exact not_lt.mp greater
        · exact least node (List.mem_cons_of_mem _ later)

theorem isRotated_fromSmallest (circuit : Circuit) : circuit.fromSmallest ~r circuit.nodes := by
  have turned : circuit.nodes.take (circuit.nodes.idxOf circuit.smallest) ++
      circuit.nodes.drop (circuit.nodes.idxOf circuit.smallest) ~r circuit.fromSmallest :=
    List.isRotated_append
  rw [List.take_append_drop] at turned
  exact turned.symm

theorem startsSmallest_fromSmallest {circuit : Circuit} (nodup : circuit.nodes.Nodup) :
    StartsSmallest circuit.fromSmallest := by
  have inside := List.idxOf_lt_length_of_mem circuit.smallest_mem
  have begun : circuit.fromSmallest = circuit.smallest ::
      (circuit.nodes.drop (circuit.nodes.idxOf circuit.smallest + 1) ++
        circuit.nodes.take (circuit.nodes.idxOf circuit.smallest)) := by
    rw [fromSmallest, List.drop_eq_getElem_cons inside, List.getElem_idxOf]
    rfl
  have rotated := circuit.isRotated_fromSmallest
  rw [begun] at rotated
  refine ⟨_, _, begun, fun node member => ?_⟩
  have different := (List.nodup_cons.mp (rotated.nodup_iff.mpr nodup)).1
  have among : node ∈ circuit.nodes := rotated.mem_iff.mp (List.mem_cons_of_mem _ member)
  exact lt_of_le_of_ne (circuit.smallest_le node among) fun same => different (same ▸ member)

end Circuit

namespace DirectedGraph

variable {graph : DirectedGraph} {nodes : List String} {node start : String}

/-- An edge leads from the one node to the other. -/
def Joins (graph : DirectedGraph) (source target : String) : Prop :=
  (source, target) ∈ graph.edges

instance (graph : DirectedGraph) (source target : String) : Decidable (graph.Joins source target) :=
  inferInstanceAs (Decidable ((source, target) ∈ graph.edges))

/-- The nodes are different, and edges lead from each to the next and from the last to the first. -/
structure IsCycle (graph : DirectedGraph) (nodes : List String) : Prop where
  nonempty : nodes ≠ []
  nodup : nodes.Nodup
  chain : (nodes : Cycle String).Chain graph.Joins

theorem isCycle_cons {more : List String} :
    graph.IsCycle (start :: more) ↔
      (start :: more).Nodup ∧ (start :: (more ++ [start])).IsChain graph.Joins :=
  ⟨fun cycle => ⟨cycle.nodup, cycle.chain⟩, fun ⟨nodup, chain⟩ => ⟨List.cons_ne_nil _ _, nodup, chain⟩⟩

theorem IsCycle.of_isRotated {others : List String} (cycle : graph.IsCycle nodes)
    (rotated : nodes ~r others) : graph.IsCycle others where
  nonempty := fun empty => cycle.nonempty (List.isRotated_nil_iff.mp (empty ▸ rotated))
  nodup := rotated.nodup_iff.mp cycle.nodup
  chain := by
    have same : (nodes : Cycle String) = others := Cycle.coe_eq_coe.mpr rotated
    rw [← same]
    exact cycle.chain

theorem IsCycle.exists_startsSmallest (cycle : graph.IsCycle nodes) :
    ∃ others, others ~r nodes ∧ StartsSmallest others := by
  obtain ⟨first, more, rfl⟩ := List.exists_cons_of_ne_nil cycle.nonempty
  exact ⟨_, Circuit.isRotated_fromSmallest ⟨first, more⟩, Circuit.startsSmallest_fromSmallest cycle.nodup⟩

/-- From a node to one that is reached over edges, there is a way that passes no node twice. -/
theorem exists_path {target : String} (reached : Relation.ReflTransGen graph.Joins start target) :
    ∃ more, (start :: more).Nodup ∧ (start :: more).IsChain graph.Joins ∧
      (start :: more).getLast? = some target := by
  induction reached using Relation.ReflTransGen.head_induction_on with
  | refl => exact ⟨[], List.nodup_singleton _, List.isChain_singleton _, rfl⟩
  | head joined _ ih =>
      rename_i first next _
      obtain ⟨more, nodup, chain, last⟩ := ih
      by_cases passed : first ∈ next :: more
      · -- The way comes back to the node, so it can begin there.
        obtain ⟨front, behind, cut⟩ := List.append_of_mem passed
        rw [cut] at nodup chain last
        refine ⟨behind, (List.nodup_append.mp nodup).2.1, chain.right_of_append, ?_⟩
        rwa [List.getLast?_append_of_ne_nil _ (List.cons_ne_nil _ _)] at last
      · refine ⟨next :: more, List.nodup_cons.mpr ⟨passed, nodup⟩, ?_, ?_⟩
        · exact List.isChain_cons_cons.mpr ⟨joined, chain⟩
        · rw [List.getLast?_cons_cons]
          exact last

/-- There is a cycle exactly if edges lead from some node back to it. -/
theorem exists_isCycle_iff :
    (∃ nodes, graph.IsCycle nodes) ↔ ∃ node, Relation.TransGen graph.Joins node node := by
  constructor
  · rintro ⟨nodes, cycle⟩
    obtain ⟨start, more, rfl⟩ := List.exists_cons_of_ne_nil cycle.nonempty
    have around := cycle.chain.imp fun _ _ => Relation.TransGen.single
    exact ⟨start, Cycle.chain_iff_pairwise.mp around start (by simp) start (by simp)⟩
  · rintro ⟨node, around⟩
    obtain ⟨next, joined, back⟩ := Relation.TransGen.head'_iff.mp around
    obtain ⟨more, nodup, chain, last⟩ := exists_path back
    refine ⟨next :: more, isCycle_cons.mpr ⟨nodup, ?_⟩⟩
    rw [← List.cons_append, List.isChain_append]
    refine ⟨chain, List.isChain_singleton _, ?_⟩
    rw [last]
    rintro _ ⟨⟩ _ ⟨⟩
    exact joined

end DirectedGraph

end TableScript
