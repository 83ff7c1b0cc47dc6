import Mathlib.Data.String.Basic
import Tickflow.Proofs.Isolate
/-!
What the graph of an engine answers: which handlers the links lead to from a handler, and whether they
lead from some handler back to itself. Both answers depend on nothing but who is linked to whom.
-/
namespace Tickflow

theorem nodup_eraseDups [BEq α] [LawfulBEq α] (xs : List α) : xs.eraseDups.Nodup := by
  induction count : xs.length using Nat.strongRecOn generalizing xs with
  | ind n ih =>
    cases xs with
    | nil => exact List.nodup_nil
    | cons x rest =>
      rw [List.eraseDups_cons, List.nodup_cons]
      have shorter : (rest.filter fun y => !y == x).length < n := by
        have fewer := List.length_filter_le (fun y => !y == x) rest
        rw [List.length_cons] at count
        omega
      exact ⟨by simp [List.mem_eraseDups], ih _ shorter _ rfl⟩

theorem HandlerId.text_inj {x y : HandlerId} (same : x.text = y.text) : x = y := by
  cases x
  cases y
  cases same
  rfl

namespace HandlerGraph

theorem spread_nodup (g : HandlerGraph) (steps : Nat) {reached : List HandlerId}
    (distinct : reached.Nodup) : (g.spread steps reached).Nodup := by
  induction steps generalizing reached with
  | zero => exact distinct
  | succ steps ih =>
    simp only [spread]
    split
    · exact distinct
    · refine ih (List.nodup_append.mpr ⟨distinct, (nodup_eraseDups _).filter _, ?_⟩)
      rintro x old y new rfl
      simp [old] at new

theorem downstream_sorted (g : HandlerGraph) (id : HandlerId) :
    (g.downstreamOf id).Pairwise fun x y => x.text < y.text := by
  unfold downstreamOf
  split
  · have transitive (x y z : HandlerId) (first : decide (x.text ≤ y.text) = true)
        (second : decide (y.text ≤ z.text) = true) : decide (x.text ≤ z.text) = true :=
      decide_eq_true ((of_decide_eq_true first).trans (of_decide_eq_true second))
    have total (x y : HandlerId) :
        (decide (x.text ≤ y.text) || decide (y.text ≤ x.text)) = true := by
      simpa using le_total x.text y.text
    have sorted := List.pairwise_mergeSort transitive total
      ((g.reachable [id]).filter (· != id))
    have distinct : (((g.reachable [id]).filter (· != id)).mergeSort
        fun x y => decide (x.text ≤ y.text)).Nodup :=
      (List.mergeSort_perm _ _).nodup_iff.mpr
        ((g.spread_nodup _ (List.nodup_singleton id)).filter _)
    refine (sorted.and distinct).imp fun {x y} ordered => ?_
    have apart : x.text ≠ y.text := fun same => ordered.2 (HandlerId.text_inj same)
    exact lt_of_le_of_ne (of_decide_eq_true ordered.1) apart
  · exact List.Pairwise.nil

theorem hasCycle_iff {g : HandlerGraph} (within : g.Within) :
    g.hasCycle = true ↔ ∃ x, Relation.TransGen g.Edge x x := by
  simp only [hasCycle, List.any_eq_true, List.contains_iff_mem, mem_reachable within,
    mem_successors, List.mem_singleton, exists_eq_left]
  constructor
  · rintro ⟨x, _, y, edge, path⟩
    exact ⟨x, Relation.TransGen.head'_iff.mpr ⟨y, edge, path⟩⟩
  · rintro ⟨x, loop⟩
    obtain ⟨y, _, e, mem, _, rfl⟩ := Relation.TransGen.tail'_iff.mp loop
    exact ⟨e.target, within e mem, Relation.TransGen.head'_iff.mp loop⟩

end HandlerGraph

namespace Engine

abbrev Reaches (e : Engine) : HandlerId → HandlerId → Prop := Relation.TransGen e.Linked

theorem linked_ext {e e' : Engine} (same : ∀ x y, e'.Linked x y ↔ e.Linked x y) :
    e'.Linked = e.Linked := by
  funext x y
  exact propext (same x y)

theorem Wired.reaches_known {e : Engine} (w : e.Wired) {x y : HandlerId} (reaches : e.Reaches x y) :
    x ∈ e.ids := by
  obtain ⟨z, ⟨l, ml, rfl, _⟩, _⟩ := Relation.TransGen.head'_iff.mp reaches
  exact (w.attached.ends l ml).1

theorem Wired.mem_downstream {e : Engine} (w : e.Wired) {x y : HandlerId} :
    y ∈ e.graph.downstreamOf x ↔ y ≠ x ∧ e.Reaches x y := by
  by_cases known : x ∈ e.ids
  · rw [HandlerGraph.mem_downstream w.within (w.nodes ▸ known), ← w.linked,
      Relation.reflTransGen_iff_eq_or_transGen]
    constructor
    · rintro ⟨other, same | reaches⟩
      · exact absurd same other
      · exact ⟨other, reaches⟩
    · rintro ⟨other, reaches⟩
      exact ⟨other, .inr reaches⟩
  · constructor
    · intro mem
      simp [HandlerGraph.downstreamOf, w.nodes, known] at mem
    · rintro ⟨_, reaches⟩
      exact absurd (w.reaches_known reaches) known

theorem Wired.hasCycle {e : Engine} (w : e.Wired) :
    e.graph.hasCycle = true ↔ ∃ x, e.Reaches x x := by
  rw [HandlerGraph.hasCycle_iff w.within, ← w.linked]

/-- Two engines with the same handlers linked to each other give the same answers, however many links
there are between two handlers. -/
theorem Wired.same_downstream {e e' : Engine} (w : e.Wired) (w' : e'.Wired)
    (same : ∀ x y, e'.Linked x y ↔ e.Linked x y) (x : HandlerId) :
    e'.graph.downstreamOf x = e.graph.downstreamOf x := by
  have sorted := e.graph.downstream_sorted x
  have sorted' := e'.graph.downstream_sorted x
  have members : ∀ y, y ∈ e'.graph.downstreamOf x ↔ y ∈ e.graph.downstreamOf x := by
    intro y
    rw [w.mem_downstream, w'.mem_downstream, Reaches, linked_ext same]
  have perm := (List.perm_ext_iff_of_nodup (sorted'.imp fun less same => by simp [same] at less)
    (sorted.imp fun less same => by simp [same] at less)).mpr members
  exact perm.eq_of_pairwise (fun _ _ _ _ less more => absurd more less.asymm) sorted' sorted

end Engine

namespace Hosted

open Engine

/-- Whatever was done with an engine, its graph answers as its links are: what is downstream of a
handler is just what the links lead to from it, the handler itself apart, and there is a cycle just when
they lead from some handler back to it. -/
theorem graph_follows_links {within : Engine → Prop} {h : Hosted} (reach : Reachable within h) :
    (∀ x y, y ∈ h.engine.graph.downstreamOf x ↔ y ≠ x ∧ h.engine.Reaches x y) ∧
    (∀ x, (h.engine.graph.downstreamOf x).Pairwise fun y z => y.text < z.text) ∧
    (∀ x, x ∉ h.engine.ids → h.engine.graph.downstreamOf x = []) ∧
    (h.engine.graph.hasCycle = true ↔ ∃ x, h.engine.Reaches x x) ∧
    ∀ k, Reachable within k → (∀ x y, k.engine.Linked x y ↔ h.engine.Linked x y) →
      (∀ x, k.engine.graph.downstreamOf x = h.engine.graph.downstreamOf x) ∧
      k.engine.graph.hasCycle = h.engine.graph.hasCycle := by
  have w := reachable_wired reach
  refine ⟨fun x y => w.mem_downstream, h.engine.graph.downstream_sorted, ?_, w.hasCycle, ?_⟩
  · intro x unknown
    refine List.eq_nil_iff_forall_not_mem.mpr fun y mem => unknown ?_
    exact w.reaches_known (w.mem_downstream.mp mem).2
  · intro k reach' same
    have w' := reachable_wired reach'
    refine ⟨w.same_downstream w' same, ?_⟩
    rw [Bool.eq_iff_iff, w.hasCycle, w'.hasCycle, Reaches, linked_ext same]

def mixer : HandlerId := ⟨"mixer", by decide⟩
def delay : HandlerId := ⟨"delay", by decide⟩
def wetBridge : HandlerId := ⟨"device_to_host_adapter_0", by decide⟩

/-- A mixer that feeds a delay, which works in device memory and feeds the mixer. -/
def echo : Hosted :=
  ((((⟨.blank 0 (Settings.default.withFps 30.0) none, none⟩ : Hosted).added (some "mixer")
    (.plain "Mixer" [.input "wet" .audio, .output "left" .audio, .output "right" .audio]
      [])).added (some "delay")
    (.plain "Delay" [.input "left" .audio, .input "right" .audio,
      (PortSpec.output "wet" .audio).withCapabilities .deviceOnly] [])).connect
    ⟨mixer, "left"⟩ ⟨delay, "left"⟩).2.connect ⟨delay, "wet"⟩ ⟨mixer, "wet"⟩ |>.2

def stereoEcho : Hosted := (echo.connect ⟨mixer, "right"⟩ ⟨delay, "right"⟩).2

theorem echo_reachable : Reachable Quiet echo :=
  .next (.next (.next (.next (.fresh (show make 0 .default 30.0 = .ok _ from rfl) none) (.add _ _))
    (.add _ _)) (.connect _ _)) (.connect _ _)

theorem echo_links : echo.engine.links =
    [⟨⟨mixer, "left"⟩, ⟨delay, "left"⟩, 0⟩, ⟨⟨delay, "wet"⟩, ⟨wetBridge, "in"⟩, 1⟩,
      ⟨⟨wetBridge, "out"⟩, ⟨mixer, "wet"⟩, 2⟩] := by
  decide +kernel

theorem stereo_links : stereoEcho.engine.links =
    echo.engine.links ++ [⟨⟨mixer, "right"⟩, ⟨delay, "right"⟩, 3⟩] := by
  decide +kernel

theorem stereo_linked (x y : HandlerId) :
    stereoEcho.engine.Linked x y ↔ echo.engine.Linked x y := by
  rw [Linked, stereo_links]
  constructor
  · rintro ⟨l, mem, source, target⟩
    rcases List.mem_append.mp mem with old | new
    · exact ⟨l, old, source, target⟩
    · rw [List.mem_singleton.mp new] at source target
      have first : ⟨⟨mixer, "left"⟩, ⟨delay, "left"⟩, 0⟩ ∈ echo.engine.links := by
        rw [echo_links]
        exact .head _
      exact ⟨_, first, source, target⟩
  · rintro ⟨l, mem, source, target⟩
    exact ⟨l, List.mem_append_left _ mem, source, target⟩

theorem graph_follows_links_echo : Reachable Quiet echo ∧ Reachable Quiet stereoEcho ∧
    echo.engine.graph.hasCycle = true ∧ wetBridge ∈ echo.engine.graph.downstreamOf mixer ∧
    mixer ∉ echo.engine.graph.downstreamOf mixer ∧
    stereoEcho.engine.graph.downstreamOf mixer = echo.engine.graph.downstreamOf mixer ∧
    stereoEcho.engine.graph.hasCycle = true := by
  have reach := echo_reachable
  have reach' : Reachable Quiet stereoEcho := reach.next (.connect _ _)
  obtain ⟨members, _, _, cycle, alike⟩ := graph_follows_links reach
  have out : echo.engine.Linked mixer delay := ⟨_, by rw [echo_links]; exact .head _, rfl, rfl⟩
  have across : echo.engine.Linked delay wetBridge :=
    ⟨_, by rw [echo_links]; exact .tail _ (.head _), rfl, rfl⟩
  have back : echo.engine.Linked wetBridge mixer :=
    ⟨_, by rw [echo_links]; exact .tail _ (.tail _ (.head _)), rfl, rfl⟩
  have reaches : echo.engine.Reaches mixer wetBridge := .tail (.single out) across
  obtain ⟨same, cyclic⟩ := alike stereoEcho reach' stereo_linked
  have looped := cycle.mpr ⟨mixer, reaches.tail back⟩
  refine ⟨reach, reach', looped, (members _ _).mpr ⟨by decide, reaches⟩, ?_, same mixer,
    cyclic.trans looped⟩
  intro mem
  exact ((members _ _).mp mem).1 rfl

end Hosted

end Tickflow
