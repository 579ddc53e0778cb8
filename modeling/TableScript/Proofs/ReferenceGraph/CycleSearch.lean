import TableScript.Proofs.ReferenceGraph.Circuit

/-! The search for cycles. From each node those cycles are found of which it is the smallest node: leaving
out the nodes without a way back leaves out no cycle, a path is continued in every way in which it can
become a cycle, and there is always room for it. -/

namespace TableScript

namespace DirectedGraph

variable {graph : DirectedGraph} {circuit : Circuit} {start node : String} {home path nodes : List String}

/-- No node and no edge is given twice, and the ends of edges are nodes. -/
structure WellFormed (graph : DirectedGraph) : Prop where
  nodes : graph.nodes.Nodup
  edges : graph.edges.Nodup
  ends : ∀ source target, graph.Joins source target → source ∈ graph.nodes ∧ target ∈ graph.nodes

theorem mem_successors {next : String} : next ∈ graph.successors node ↔ graph.Joins node next := by
  simp [successors, Joins]

theorem mem_predecessors {previous : String} :
    previous ∈ graph.predecessors node ↔ graph.Joins previous node := by
  simp [predecessors, Joins]

theorem WellFormed.nodup_successors (wellFormed : graph.WellFormed) (node : String) :
    (graph.successors node).Nodup := by
  refine (wellFormed.edges.filter _).map_on fun edge member other among same => ?_
  have source := beq_iff_eq.mp (List.mem_filter.mp member).2
  have otherSource := beq_iff_eq.mp (List.mem_filter.mp among).2
  exact Prod.ext (source.trans otherSource.symm) same

theorem leadingTo_subset (graph : DirectedGraph) (remaining pending : List String) :
    graph.leadingTo remaining pending ⊆ remaining := by
  fun_induction leadingTo graph remaining pending with
  | case1 => exact List.nil_subset _
  | case2 remaining node others found ih =>
      exact List.cons_subset.mpr ⟨found, List.Subset.trans ih List.erase_subset⟩
  | case3 remaining node others _ ih => exact ih

/-- A way over remaining nodes to one that is pending is found as a whole. -/
theorem subset_leadingTo {remaining pending way : List String} (chain : way.IsChain graph.Joins)
    (nodup : way.Nodup) (remains : way ⊆ remaining) (last : ∀ node ∈ way.getLast?, node ∈ pending) :
    way ⊆ graph.leadingTo remaining pending := by
  fun_induction leadingTo graph remaining pending generalizing way with
  | case1 =>
      cases ended : way.getLast? with
      | none => rw [List.getLast?_eq_none_iff.mp ended]; exact List.nil_subset _
      | some node => exact absurd (last node ended) List.not_mem_nil
  | case2 remaining node others found ih =>
      -- A part of the way without the node goes over what remains besides it.
      have kept : ∀ part, part <:+: way → node ∉ part →
          (∀ other ∈ part.getLast?, other ∈ graph.predecessors node ++ others) →
          part ⊆ node :: graph.leadingTo (remaining.erase node) (graph.predecessors node ++ others) := by
        intro part inside absent ended
        have stays : part ⊆ remaining.erase node := by
          intro other member
          have different : other ≠ node := fun same => absent (same ▸ member)
          exact (List.mem_erase_of_ne different).mpr (remains (inside.subset member))
        have partChain : part.IsChain graph.Joins := List.IsChain.infix chain inside
        exact List.subset_cons_of_subset _ (ih partChain (nodup.sublist inside.sublist) stays ended)
      have pending : ∀ other ∈ way.getLast?, other ≠ node → other ∈ graph.predecessors node ++ others := by
        intro other ended different
        exact List.mem_append_right _ ((List.mem_cons.mp (last other ended)).resolve_left different)
      by_cases passed : node ∈ way
      · obtain ⟨front, behind, rfl⟩ := List.append_of_mem passed
        have apart := nodup
        rw [List.nodup_middle, List.nodup_cons, List.mem_append, not_or] at apart
        refine List.append_subset.mpr ⟨?_, List.cons_subset.mpr ⟨List.mem_cons_self, ?_⟩⟩
        · refine kept front (List.prefix_append _ _).isInfix apart.1.1 fun other ended => ?_
          have joined := (List.isChain_append.mp chain).2.2 other ended node rfl
          exact List.mem_append_left _ (mem_predecessors.mpr joined)
        · have suffix : behind <:+ front ++ node :: behind :=
            (List.suffix_cons node behind).trans (List.suffix_append _ _)
          refine kept behind suffix.isInfix apart.1.2 fun other ended => pending other ?_ ?_
          · have nonempty : behind ≠ [] := by
              rintro rfl
              cases ended
            rwa [List.append_cons, List.getLast?_append_of_ne_nil _ nonempty]
          · rintro rfl
            exact apart.1.2 (List.mem_of_getLast? ended)
      · refine kept way (List.infix_refl way) passed fun other ended => pending other ended ?_
        rintro rfl
        exact passed (List.mem_of_getLast? ended)
  | case3 remaining node others lost ih =>
      refine ih chain nodup remains fun other ended => ?_
      rcases List.mem_cons.mp (last other ended) with rfl | later
      · exact absurd (remains (List.mem_of_getLast? ended)) lost
      · exact later

/-- The nodes continue the path over nodes of `home` that are not on it, none twice, up to one from which
an edge leads back to the start. -/
structure Closes (graph : DirectedGraph) (start : String) (home path more : List String) : Prop where
  chain : (path.headD start :: (more ++ [start])).IsChain graph.Joins
  nodup : more.Nodup
  inside : ∀ node ∈ more, node ∈ home ∧ node ∉ path

theorem closes_nil : graph.Closes start home path [] ↔ graph.Joins (path.headD start) start :=
  ⟨fun closes => List.isChain_pair.mp closes.chain,
    fun joined => ⟨List.isChain_pair.mpr joined, List.nodup_nil, by simp⟩⟩

theorem closes_cons {next : String} {more : List String} :
    graph.Closes start home path (next :: more) ↔
      (graph.Joins (path.headD start) next ∧ next ∈ home ∧ next ∉ path) ∧
        graph.Closes start home (next :: path) more := by
  constructor
  · rintro ⟨chain, nodup, inside⟩
    obtain ⟨joined, chain⟩ := List.isChain_cons_cons.mp chain
    obtain ⟨fresh, nodup⟩ := List.nodup_cons.mp nodup
    obtain ⟨here, behind⟩ := List.forall_mem_cons.mp inside
    refine ⟨⟨joined, here⟩, chain, nodup, fun node member => ⟨(behind node member).1, ?_⟩⟩
    rw [List.mem_cons, not_or]
    exact ⟨fun same => fresh (same ▸ member), (behind node member).2⟩
  · rintro ⟨⟨joined, here⟩, chain, nodup, inside⟩
    refine ⟨List.isChain_cons_cons.mpr ⟨joined, chain⟩, List.nodup_cons.mpr ⟨?_, nodup⟩,
      List.forall_mem_cons.mpr ⟨here, fun node member => ⟨(inside node member).1, ?_⟩⟩⟩
    · exact fun again => (inside next again).2 List.mem_cons_self
    · exact fun passed => (inside node member).2 (List.mem_cons_of_mem next passed)

/-- A path is a cycle where an edge leads from its end back to the start. -/
theorem mem_closing (home path : List String) :
    circuit ∈ (if (graph.successors (path.headD start)).contains start
        then [Circuit.mk start path.reverse] else []) ↔
      circuit = ⟨start, path.reverse⟩ ∧ graph.Closes start home path [] := by
  rw [closes_nil, ← mem_successors, ← List.contains_iff_mem]
  split <;> simp_all

/-- The search along a path finds the cycles that continue it, as far as there is room. -/
theorem mem_circuitsAlong {room : Nat} :
    circuit ∈ graph.circuitsAlong start home room path ↔
      ∃ more, circuit = ⟨start, path.reverse ++ more⟩ ∧ more.length ≤ room ∧
        graph.Closes start home path more := by
  induction room generalizing path with
  | zero =>
      rw [circuitsAlong, mem_closing home path]
      constructor
      · rintro ⟨rfl, closes⟩
        exact ⟨[], by simp, Nat.le_refl 0, closes⟩
      · rintro ⟨more, rfl, short, closes⟩
        obtain rfl := List.length_eq_zero_iff.mp (Nat.le_zero.mp short)
        exact ⟨by simp, closes⟩
  | succ room ih =>
      rw [circuitsAlong, List.mem_append, mem_closing home path, List.mem_flatMap]
      constructor
      · rintro (⟨rfl, closes⟩ | ⟨next, among, member⟩)
        · exact ⟨[], by simp, Nat.zero_le _, closes⟩
        · obtain ⟨more, rfl, short, closes⟩ := ih.mp member
          refine ⟨next :: more, by simp, Nat.succ_le_succ short, closes_cons.mpr ⟨?_, closes⟩⟩
          simpa [mem_successors] using among
      · rintro ⟨more, rfl, short, closes⟩
        cases more with
        | nil => exact .inl ⟨by simp, closes⟩
        | cons next more =>
            obtain ⟨here, closes⟩ := closes_cons.mp closes
            refine .inr ⟨next, by simpa [mem_successors] using here, ?_⟩
            exact ih.mpr ⟨more, by simp, Nat.le_of_succ_le_succ short, closes⟩

/-- No cycle is found twice: where the path goes on to different nodes, the cycles are different. -/
theorem nodup_circuitsAlong (wellFormed : graph.WellFormed) (start : String) (home : List String)
    (room : Nat) (path : List String) : (graph.circuitsAlong start home room path).Nodup := by
  have closed : ∀ path : List String, (if (graph.successors (path.headD start)).contains start
      then [Circuit.mk start path.reverse] else []).Nodup := by
    intro path
    split <;> simp
  induction room generalizing path with
  | zero => exact closed path
  | succ room ih =>
      rw [circuitsAlong, List.nodup_append]
      refine ⟨closed path, List.nodup_flatMap.mpr ⟨fun next _ => ih (next :: path), ?_⟩, ?_⟩
      · refine ((wellFormed.nodup_successors _).filter _).imp fun {next other} different => ?_
        refine List.disjoint_left.mpr fun circuit found again => different ?_
        obtain ⟨more, rfl, _⟩ := mem_circuitsAlong.mp found
        obtain ⟨others, same, _⟩ := mem_circuitsAlong.mp again
        simp only [List.reverse_cons, List.append_assoc, List.singleton_append, Circuit.mk.injEq,
          true_and, List.append_cancel_left_eq, List.cons.injEq] at same
        exact same.1
      · rintro circuit short _ member rfl
        obtain ⟨next, _, found⟩ := List.mem_flatMap.mp member
        obtain ⟨more, long, _⟩ := mem_circuitsAlong.mp found
        obtain ⟨shape, _⟩ := (mem_closing home path).mp short
        have lengths := congrArg (·.more.length) (shape.symm.trans long)
        simp at lengths

theorem WellFormed.mem_of_isChain {more : List String} (wellFormed : graph.WellFormed)
    (chain : (start :: more).IsChain graph.Joins) : more ⊆ graph.nodes := by
  induction more generalizing start with
  | nil => exact List.nil_subset _
  | cons next more ih =>
      obtain ⟨joined, behind⟩ := List.isChain_cons_cons.mp chain
      exact List.cons_subset.mpr ⟨(wellFormed.ends start next joined).2, ih behind⟩

/-- From a node exactly the cycles are found of which it is the smallest node. -/
theorem mem_circuitsFrom (wellFormed : graph.WellFormed) :
    circuit ∈ graph.circuitsFrom start ↔
      graph.IsCycle circuit.nodes ∧ circuit.first = start ∧ ∀ node ∈ circuit.more, start < node := by
  rw [circuitsFrom, mem_circuitsAlong]
  constructor
  · rintro ⟨more, rfl, _, chain, nodup, inside⟩
    have least : ∀ node ∈ more, start < node := by
      intro node member
      have greater := leadingTo_subset _ _ _ (inside node member).1
      simpa using (List.mem_filter.mp greater).2
    refine ⟨isCycle_cons.mpr ⟨List.nodup_cons.mpr ⟨fun again => ?_, nodup⟩, chain⟩, rfl, least⟩
    exact lt_irrefl _ (least start again)
  · obtain ⟨first, more⟩ := circuit
    rintro ⟨cycle, rfl, least⟩
    obtain ⟨nodup, chain⟩ := isCycle_cons.mp cycle
    have named : more ⊆ graph.nodes :=
      List.Subset.trans (List.subset_append_left _ _) (wellFormed.mem_of_isChain chain)
    have behind := List.isChain_append.mp (List.isChain_cons.mp chain).2
    refine ⟨more, rfl, (nodup.of_cons.subperm named).length_le, chain, nodup.of_cons,
      fun node member => ⟨?_, List.not_mem_nil⟩⟩
    refine subset_leadingTo behind.1 nodup.of_cons ?_ ?_ member
    · intro other among
      exact List.mem_filter.mpr ⟨named among, decide_eq_true (least other among)⟩
    · intro other last
      exact mem_predecessors.mpr (behind.2.2 other last first rfl)

theorem mem_circuits (wellFormed : graph.WellFormed) :
    circuit ∈ graph.circuits ↔
      graph.IsCycle circuit.nodes ∧ ∀ node ∈ circuit.more, circuit.first < node := by
  rw [circuits, List.mem_flatMap]
  constructor
  · rintro ⟨start, _, found⟩
    obtain ⟨cycle, rfl, least⟩ := (mem_circuitsFrom wellFormed).mp found
    exact ⟨cycle, least⟩
  · rintro ⟨cycle, least⟩
    have named := wellFormed.mem_of_isChain (isCycle_cons.mp cycle).2
    have first : circuit.first ∈ graph.nodes := named (List.mem_append_right _ List.mem_cons_self)
    exact ⟨_, first, (mem_circuitsFrom wellFormed).mpr ⟨cycle, rfl, least⟩⟩

theorem nodup_circuits (wellFormed : graph.WellFormed) : graph.circuits.Nodup := by
  refine List.nodup_flatMap.mpr ⟨fun start _ => nodup_circuitsAlong wellFormed _ _ _ _, ?_⟩
  refine wellFormed.nodes.imp fun {start other} different => ?_
  refine List.disjoint_left.mpr fun circuit found again => different ?_
  exact ((mem_circuitsFrom wellFormed).mp found).2.1.symm.trans ((mem_circuitsFrom wellFormed).mp again).2.1

end DirectedGraph

/-- What a search for cycles is relied on for: it finds all cycles of a graph and nothing else, and none of
them a second time, begun at another node. -/
structure CycleSearch.Enumerates (search : CycleSearch) : Prop where
  sound : ∀ {graph : DirectedGraph}, graph.WellFormed →
    ∀ circuit ∈ search graph, graph.IsCycle circuit.nodes
  complete : ∀ {graph : DirectedGraph}, graph.WellFormed → ∀ nodes, graph.IsCycle nodes →
    ∃ circuit ∈ search graph, circuit.nodes ~r nodes
  once : ∀ {graph : DirectedGraph}, graph.WellFormed →
    (search graph).Pairwise fun first second => ¬first.nodes ~r second.nodes

/-- The search from smallest nodes can be relied on. -/
theorem DirectedGraph.enumerates_circuits : CycleSearch.Enumerates circuits where
  sound wellFormed circuit member := ((mem_circuits wellFormed).mp member).1
  complete wellFormed nodes cycle := by
    obtain ⟨others, rotated, start, more, rfl, least⟩ := cycle.exists_startsSmallest
    exact ⟨⟨start, more⟩, (mem_circuits wellFormed).mpr ⟨cycle.of_isRotated rotated.symm, least⟩, rotated⟩
  once wellFormed := by
    refine (nodup_circuits wellFormed).imp_of_mem fun {first second} member among different rotated => ?_
    obtain ⟨cycle, least⟩ := (mem_circuits wellFormed).mp member
    obtain ⟨_, otherLeast⟩ := (mem_circuits wellFormed).mp among
    have smallest : StartsSmallest first.nodes := ⟨_, _, rfl, least⟩
    have same := smallest.eq_of_isRotated cycle.nodup ⟨_, _, rfl, otherLeast⟩ rotated
    obtain ⟨sameFirst, sameMore⟩ := List.cons.inj same
    exact different (by rw [Circuit.mk.injEq]; exact ⟨sameFirst, sameMore⟩)

end TableScript
