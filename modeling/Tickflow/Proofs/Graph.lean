import Mathlib.Logic.Relation
import Tickflow.Engine.Graph
/-!
What can be reached in the graph. A step that comes upon something new leaves fewer nodes to come
upon, so with as many steps as there are nodes the walk ends by itself.
-/
namespace Tickflow

namespace HandlerGraph

def Edge (g : HandlerGraph) (x y : HandlerId) : Prop := ∃ e ∈ g.edges, e.source = x ∧ e.target = y

def Within (g : HandlerGraph) : Prop := ∀ e ∈ g.edges, e.target ∈ g.nodes

theorem mem_successors {g : HandlerGraph} {ids : List HandlerId} {y : HandlerId} :
    y ∈ g.successors ids ↔ ∃ x ∈ ids, g.Edge x y := by
  simp only [successors, List.mem_eraseDups, List.mem_map, List.mem_filter, List.contains_iff_mem,
    Edge]
  constructor
  · rintro ⟨e, ⟨mem, source⟩, rfl⟩
    exact ⟨e.source, source, e, mem, rfl, rfl⟩
  · rintro ⟨x, mem, e, edge, rfl, rfl⟩
    exact ⟨e, ⟨edge, mem⟩, rfl⟩

theorem spread_keeps (g : HandlerGraph) (steps : Nat) (reached : List HandlerId) {x : HandlerId}
    (mem : x ∈ reached) : x ∈ g.spread steps reached := by
  induction steps generalizing reached with
  | zero => exact mem
  | succ steps ih =>
    simp only [spread]
    split
    · exact mem
    · exact ih _ (List.mem_append_left _ mem)

theorem spread_reached (g : HandlerGraph) (steps : Nat) (reached : List HandlerId) {y : HandlerId}
    (mem : y ∈ g.spread steps reached) : ∃ x ∈ reached, Relation.ReflTransGen g.Edge x y := by
  induction steps generalizing reached with
  | zero => exact ⟨y, mem, .refl⟩
  | succ steps ih =>
    simp only [spread] at mem
    split at mem
    · exact ⟨y, mem, .refl⟩
    · obtain ⟨x, mx, path⟩ := ih _ mem
      rcases List.mem_append.mp mx with old | new
      · exact ⟨x, old, path⟩
      · obtain ⟨z, mz, edge⟩ := mem_successors.mp (List.mem_filter.mp new).1
        exact ⟨z, mz, .head edge path⟩

theorem spread_closed {g : HandlerGraph} (within : g.Within) (steps : Nat)
    (reached : List HandlerId)
    (enough : (g.nodes.filter fun x => !reached.contains x).length ≤ steps) {x y : HandlerId}
    (mem : x ∈ g.spread steps reached) (edge : g.Edge x y) : y ∈ g.spread steps reached := by
  have is_node {x y : HandlerId} (edge : g.Edge x y) : y ∈ g.nodes := by
    obtain ⟨e, me, _, rfl⟩ := edge
    exact within e me
  induction steps generalizing reached with
  | zero =>
    have all := List.filter_eq_nil_iff.mp (List.length_eq_zero_iff.mp (Nat.le_zero.mp enough))
    exact (show y ∈ reached by simpa using all y (is_node edge))
  | succ steps ih =>
    simp only [spread] at mem ⊢
    split at mem
    · rename_i nothing
      have old := List.filter_eq_nil_iff.mp nothing y (mem_successors.mpr ⟨x, mem, edge⟩)
      simpa [nothing] using old
    · rename_i more
      refine ih _ ?_ mem
      obtain ⟨z, _, cons⟩ := List.exists_cons_of_ne_nil more
      have new : z ∈ (g.successors reached).filter fun id => !reached.contains id :=
        cons ▸ List.mem_cons_self
      obtain ⟨successor, fresh⟩ := List.mem_filter.mp new
      obtain ⟨_, _, into⟩ := mem_successors.mp successor
      -- One of the nodes that were not reached yet is reached now.
      have fewer : ((g.nodes.filter fun x => !reached.contains x).filter fun x =>
          !((g.successors reached).filter fun id => !reached.contains id).contains x).length <
          (g.nodes.filter fun x => !reached.contains x).length := by
        refine List.length_filter_lt_length_iff_exists.mpr
          ⟨z, List.mem_filter.mpr ⟨is_node into, fresh⟩, ?_⟩
        simpa using new
      rw [List.filter_filter] at fewer
      simp only [List.contains_append, Bool.not_or]
      simp only [Bool.and_comm] at fewer
      omega

theorem mem_reachable {g : HandlerGraph} (within : g.Within) {ids : List HandlerId}
    {y : HandlerId} : y ∈ g.reachable ids ↔ ∃ x ∈ ids, Relation.ReflTransGen g.Edge x y := by
  constructor
  · exact spread_reached g _ ids
  · rintro ⟨x, mem, path⟩
    induction path with
    | refl => exact spread_keeps g _ ids mem
    | tail _ edge ih => exact spread_closed within _ ids (List.length_filter_le _ _) ih edge

theorem mem_downstream {g : HandlerGraph} (within : g.Within) {id y : HandlerId}
    (node : id ∈ g.nodes) :
    y ∈ g.downstreamOf id ↔ y ≠ id ∧ Relation.ReflTransGen g.Edge id y := by
  simp [downstreamOf, node, mem_reachable within, and_comm]

theorem downstream_node {g : HandlerGraph} (within : g.Within) {id y : HandlerId}
    (mem : y ∈ g.downstreamOf id) : y ∈ g.nodes := by
  by_cases node : id ∈ g.nodes
  · obtain ⟨other, path⟩ := (mem_downstream within node).mp mem
    cases path with
    | refl => exact absurd rfl other
    | tail _ edge =>
      obtain ⟨e, me, _, rfl⟩ := edge
      exact within e me
  · simp [downstreamOf, node] at mem

end HandlerGraph

end Tickflow
