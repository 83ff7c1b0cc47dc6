import Tickflow.Proofs.Dot
import Tickflow.Proofs.Wiring
/-!
The digraph of an engine shows its handlers and links. Names are put between quotes as they are, so that
they have to be names which quotes do not change.
-/
namespace Tickflow

namespace Dot

structure Box where
  id : String
  className : String
  isAdapter : Bool
  deriving DecidableEq, Repr

structure Arrow where
  source : String
  sourcePort : String
  target : String
  targetPort : String
  deriving DecidableEq, Repr

structure Picture where
  boxes : List Box
  arrows : List Arrow
  deriving DecidableEq, Repr

def box? (id : String) (attributes : Attributes) : Option Box := do
  let label ← attributes.lookup "label"
  let (front, rest) ← Text.cut? ['\\', 'n', '('] label.toList
  if front = id.toList ∧ rest.getLast? = some ')' then
    some ⟨id, String.ofList rest.dropLast, attributes.lookup "style" = some "dashed"⟩
  else none

def arrow? (source target : String) (attributes : Attributes) : Option Arrow := do
  let label ← attributes.lookup "label"
  let (front, rest) ← Text.cut? ['→'] label.toList
  return ⟨source, String.ofList front, target, String.ofList rest⟩

def Statement.node? : Statement → Option (String × Attributes)
  | .node id attributes => some (id, attributes)
  | _ => none

def Statement.edge? : Statement → Option (String × String × Attributes)
  | .edge source target attributes => some (source, target, attributes)
  | _ => none

/-- A node or an edge without a label of the right form spoils the picture. -/
def Digraph.picture? (g : Digraph) : Option Picture := do
  let boxes ← (g.statements.filterMap Statement.node?).mapM fun x => box? x.1 x.2
  let arrows ← (g.statements.filterMap Statement.edge?).mapM fun x => arrow? x.1 x.2.1 x.2.2
  return ⟨boxes, arrows⟩

theorem mapM_map_some {f : α → β} {g : β → Option γ} {k : α → γ} {l : List α}
    (each : ∀ x ∈ l, g (f x) = some (k x)) : (l.map f).mapM g = some (l.map k) := by
  induction l with
  | nil => rfl
  | cons x l ih =>
    have rest := ih fun y mem => each y (List.mem_cons_of_mem _ mem)
    simp [each x List.mem_cons_self, rest]

end Dot

open Dot

namespace TopologyNode

def label (n : TopologyNode) : String := n.id ++ "\\n(" ++ n.className ++ ")"

def attributes (n : TopologyNode) : Attributes :=
  ("label", n.label) :: if n.isAdapter then [("style", "dashed")] else []

def statement (n : TopologyNode) : Statement := .node n.id n.attributes

def box (n : TopologyNode) : Box := ⟨n.id, n.className, n.isAdapter⟩

def sentence (n : TopologyNode) : List Token :=
  [.quoted n.id.toList, .mark '[', .word "label".toList, .mark '=', .quoted n.label.toList] ++
    if n.isAdapter then [.mark ',', .word "style".toList, .mark '=', .word "dashed".toList, .mark ']']
    else [.mark ']']

/-- The id is the id of a handler, and the class name stays as it is between quotes. -/
structure Legible (n : TopologyNode) : Prop where
  id : isIdText n.id.toList = true
  className : Unbroken n.className.toList

end TopologyNode

namespace TopologyEdge

def label (x : TopologyEdge) : String := x.sourcePort ++ "→" ++ x.targetPort

def attributes (x : TopologyEdge) : Attributes := [("label", x.label)]

def statement (x : TopologyEdge) : Statement := .edge x.sourceHandler x.targetHandler x.attributes

def arrow (x : TopologyEdge) : Arrow :=
  ⟨x.sourceHandler, x.sourcePort, x.targetHandler, x.targetPort⟩

def sentence (x : TopologyEdge) : List Token :=
  [.quoted x.sourceHandler.toList, .arrow, .quoted x.targetHandler.toList, .mark '[',
    .word "label".toList, .mark '=', .quoted x.label.toList, .mark ']']

/-- The port names stay as they are between quotes, and the arrow between them is the first one. -/
structure Legible (x : TopologyEdge) : Prop where
  sourceHandler : isIdText x.sourceHandler.toList = true
  targetHandler : isIdText x.targetHandler.toList = true
  sourcePort : Unbroken x.sourcePort.toList
  first : '→' ∉ x.sourcePort.toList
  targetPort : Plain x.targetPort.toList

end TopologyEdge

theorem isIdText_clear {s : List Char} (valid : isIdText s = true) {c : Char}
    (other : isIdChar c = false) : c ∉ s := by
  intro mem
  have all := List.all_eq_true.mp (Bool.and_eq_true_iff.mp valid).2 c mem
  rw [other] at all
  cases all

theorem isIdText_plain {s : List Char} (valid : isIdText s = true) : Plain s := by
  have slash : '\\' ∉ s := isIdText_clear valid (by decide)
  refine ⟨⟨isIdText_clear valid (by decide), ?_⟩, ?_⟩
  · rw [List.isChain_iff_forall_rel_of_append_cons_cons]
    rintro x y before after rfl ⟨rfl, _⟩
    exact slash (by simp)
  · intro last
    exact slash (List.mem_of_getLast? last)

namespace TopologyNode

variable {n : TopologyNode}

theorem Legible.label (legible : n.Legible) : Plain n.label.toList := by
  have id := (isIdText_plain legible.id).1
  have line : Unbroken ['\\', 'n', '('] := by decide
  have close : Unbroken [')'] := by decide
  have body := ((id.append line (.inr (by decide))).append legible.className
    (.inl (by simp))).append close (.inr (by decide))
  have same : n.label.toList =
      n.id.toList ++ ['\\', 'n', '('] ++ n.className.toList ++ [')'] := by
    simp [TopologyNode.label]
  rw [same]
  exact ⟨body, by simp only [List.getLast?_append]; simp⟩

theorem Legible.reads (legible : n.Legible) :
    Reads .gap (Topology.dotNode n).toList (n.sentence ++ [.mark ';']) .gap := by
  have same : (Topology.dotNode n).toList = "  ".toList ++ (('"' :: (n.id.toList ++ ['"'])) ++
      (" [label=".toList ++ (('"' :: (n.label.toList ++ ['"'])) ++
      ((if n.isAdapter then ", style=dashed];\n" else "];\n").toList)))) := by
    cases adapter : n.isAdapter <;> simp [Topology.dotNode, TopologyNode.label, adapter]
  have style : Reads .gap (if n.isAdapter then ", style=dashed];\n" else "];\n").toList
      ((if n.isAdapter then [.mark ',', .word "style".toList, .mark '=', .word "dashed".toList,
        .mark ']'] else [.mark ']']) ++ [.mark ';']) .gap := by
    cases n.isAdapter <;> rfl
  have indent : Reads .gap "  ".toList [] .gap := rfl
  have before : Reads .gap " [label=".toList [.mark '[', .word "label".toList, .mark '='] .gap := rfl
  rw [same]
  exact indent.append ((reads_quoted (isIdText_plain legible.id)).append
    (before.append ((reads_quoted legible.label).append style)))

theorem sentence_clear (n : TopologyNode) : .mark ';' ∉ n.sentence := by
  cases adapter : n.isAdapter <;> simp [TopologyNode.sentence, adapter]

theorem sentence_read (n : TopologyNode) : statement? n.sentence = some n.statement := by
  cases adapter : n.isAdapter <;>
    simp [sentence, statement, attributes, adapter, statement?, attributes?, items?, Token.value?]

theorem Legible.box (legible : n.Legible) : box? n.id n.attributes = some n.box := by
  have clear : '\\' ∉ n.id.toList := isIdText_clear legible.id (by decide)
  have same : n.label.toList =
      n.id.toList ++ '\\' :: ['n', '('] ++ (n.className.toList ++ [')']) := by
    simp [TopologyNode.label]
  have cut : Text.cut? ['\\', 'n', '('] n.label.toList =
      some (n.id.toList, n.className.toList ++ [')']) :=
    same ▸ Text.cut_clear clear _
  cases adapter : n.isAdapter <;>
    simp [attributes, box?, cut, TopologyNode.box, adapter, List.lookup_cons]

end TopologyNode

namespace TopologyEdge

variable {x : TopologyEdge}

theorem Legible.label (legible : x.Legible) : Plain x.label.toList := by
  have arrow : Unbroken ['→'] := by decide
  have body := (legible.sourcePort.append arrow (.inr (by decide))).append legible.targetPort.1
    (.inl (by simp))
  have same : x.label.toList = x.sourcePort.toList ++ ['→'] ++ x.targetPort.toList := by
    simp [TopologyEdge.label]
  rw [same]
  refine ⟨body, ?_⟩
  simp only [List.getLast?_append]
  cases last : x.targetPort.toList.getLast? with
  | none => simp
  | some c => simpa [last] using legible.targetPort.2

theorem Legible.reads (legible : x.Legible) :
    Reads .gap (Topology.dotEdge x).toList (x.sentence ++ [.mark ';']) .gap := by
  have same : (Topology.dotEdge x).toList =
      "  ".toList ++ (('"' :: (x.sourceHandler.toList ++ ['"'])) ++ (" -> ".toList ++
      (('"' :: (x.targetHandler.toList ++ ['"'])) ++ (" [label=".toList ++
      (('"' :: (x.label.toList ++ ['"'])) ++ "];\n".toList))))) := by
    simp [Topology.dotEdge, TopologyEdge.label]
  have indent : Reads .gap "  ".toList [] .gap := rfl
  have between : Reads .gap " -> ".toList [.arrow] .gap := rfl
  have before : Reads .gap " [label=".toList [.mark '[', .word "label".toList, .mark '='] .gap := rfl
  have after : Reads .gap "];\n".toList [.mark ']', .mark ';'] .gap := rfl
  rw [same]
  exact indent.append ((reads_quoted (isIdText_plain legible.sourceHandler)).append
    (between.append ((reads_quoted (isIdText_plain legible.targetHandler)).append
    (before.append ((reads_quoted legible.label).append after)))))

theorem sentence_clear (x : TopologyEdge) : .mark ';' ∉ x.sentence := by
  simp [TopologyEdge.sentence]

theorem sentence_read (x : TopologyEdge) : statement? x.sentence = some x.statement := by
  simp [sentence, statement, attributes, statement?, attributes?, items?, Token.value?]

theorem Legible.arrow (legible : x.Legible) :
    arrow? x.sourceHandler x.targetHandler x.attributes = some x.arrow := by
  have same : x.label.toList = x.sourcePort.toList ++ '→' :: [] ++ x.targetPort.toList := by
    simp [TopologyEdge.label]
  have cut : Text.cut? ['→'] x.label.toList = some (x.sourcePort.toList, x.targetPort.toList) :=
    same ▸ Text.cut_clear legible.first _
  simp [attributes, arrow?, cut, TopologyEdge.arrow]

end TopologyEdge

namespace Topology

variable {t : Topology}

structure Legible (t : Topology) : Prop where
  nodes : ∀ n ∈ t.nodes, n.Legible
  edges : ∀ x ∈ t.edges, x.Legible

def digraph (t : Topology) : Digraph where
  name := "StreamGraph"
  statements := .setting "rankdir" "LR" :: .defaults [("shape", "box")] ::
    (t.nodes.map TopologyNode.statement ++ t.edges.map TopologyEdge.statement)

def sentences (t : Topology) : List (List Token) :=
  [.word "rankdir".toList, .mark '=', .word "LR".toList] ::
  [.word "node".toList, .mark '[', .word "shape".toList, .mark '=', .word "box".toList, .mark ']'] ::
  (t.nodes.map TopologyNode.sentence ++ t.edges.map TopologyEdge.sentence)

theorem reads_head : Reads .gap
    "digraph StreamGraph \x7b\n  rankdir=LR;\n  node [shape=box];\n\n".toList
    [.word "digraph".toList, .word "StreamGraph".toList, .mark '\x7b',
      .word "rankdir".toList, .mark '=', .word "LR".toList, .mark ';',
      .word "node".toList, .mark '[', .word "shape".toList, .mark '=', .word "box".toList,
      .mark ']', .mark ';'] .gap := by
  unfold Reads
  decide +kernel

theorem Legible.tokens (legible : t.Legible) : tokens? t.dotText.toList =
    some ([.word "digraph".toList, .word "StreamGraph".toList, .mark '\x7b'] ++
      t.sentences.flatMap (· ++ [.mark ';']) ++ [.mark '\x7d']) := by
  have line : Reads .gap "\n".toList [] .gap := rfl
  have close : Reads .gap "\x7d\n".toList [.mark '\x7d'] .gap := rfl
  have nodes := reads_join (f := dotNode) fun n mem => (legible.nodes n mem).reads
  have edges := reads_join (f := dotEdge) fun x mem => (legible.edges x mem).reads
  have all := ((((reads_head.append nodes).append line).append edges).append close).tokens
  have same : t.dotText = "digraph StreamGraph \x7b\n  rankdir=LR;\n  node [shape=box];\n\n" ++
      String.join (t.nodes.map dotNode) ++ "\n" ++ String.join (t.edges.map dotEdge) ++
      "\x7d\n" := rfl
  rw [same, String.toList_append, String.toList_append, String.toList_append,
    String.toList_append, all]
  simp [sentences, List.flatMap_map]

theorem sentence_clear {s : List Token} (mem : s ∈ t.sentences) : .mark ';' ∉ s := by
  simp only [sentences, List.mem_cons, List.mem_append, List.mem_map] at mem
  rcases mem with rfl | rfl | ⟨n, _, rfl⟩ | ⟨x, _, rfl⟩
  · decide +kernel
  · decide +kernel
  · exact n.sentence_clear
  · exact x.sentence_clear

theorem sentences_read (t : Topology) :
    List.Forall₂ (fun s x => statement? s = some x) t.sentences t.digraph.statements := by
  refine .cons (by decide +kernel) (.cons (by decide +kernel) (List.rel_append ?_ ?_))
  · simpa [List.forall₂_same] using fun n _ => n.sentence_read
  · simpa [List.forall₂_same] using fun x _ => x.sentence_read

theorem Legible.read (legible : t.Legible) : read? t.dotText = some t.digraph := by
  rw [read?, legible.tokens, Option.bind_some]
  exact digraph_read (fun s mem => sentence_clear mem) t.sentences_read

def picture (t : Topology) : Picture := ⟨t.nodes.map (·.box), t.edges.map (·.arrow)⟩

theorem Legible.picture (legible : t.Legible) : t.digraph.picture? = some t.picture := by
  have nodes : t.digraph.statements.filterMap Statement.node? =
      t.nodes.map fun n => (n.id, n.attributes) := by
    simp [digraph, Statement.node?, TopologyNode.statement, TopologyEdge.statement,
      List.filterMap_cons, List.filterMap_map, Function.comp_def]
  have edges : t.digraph.statements.filterMap Statement.edge? =
      t.edges.map fun x => (x.sourceHandler, x.targetHandler, x.attributes) := by
    simp [digraph, Statement.edge?, TopologyNode.statement, TopologyEdge.statement,
      List.filterMap_cons, List.filterMap_map, Function.comp_def]
  have boxes : (t.nodes.map fun n => (n.id, n.attributes)).mapM (fun x => box? x.1 x.2) =
      some (t.nodes.map TopologyNode.box) :=
    mapM_map_some fun n mem => (legible.nodes n mem).box
  have arrows : (t.edges.map fun x => (x.sourceHandler, x.targetHandler, x.attributes)).mapM
      (fun x => arrow? x.1 x.2.1 x.2.2) = some (t.edges.map TopologyEdge.arrow) :=
    mapM_map_some fun x mem => (legible.edges x mem).arrow
  simp [Digraph.picture?, nodes, edges, boxes, arrows, Topology.picture]

end Topology

namespace Engine

structure Legible (e : Engine) : Prop where
  classes : ∀ h ∈ e.handlers, Unbroken h.behaviour.className.toList
  sources : ∀ l ∈ e.links, Unbroken l.source.port.toList ∧ '→' ∉ l.source.port.toList
  targets : ∀ l ∈ e.links, Plain l.target.port.toList

variable {e : Engine}

def picture (e : Engine) : Picture where
  boxes := e.handlers.map fun h => ⟨h.id.text, h.behaviour.className, h.isAdapter⟩
  arrows := e.links.map fun l =>
    ⟨l.source.handler.text, l.source.port, l.target.handler.text, l.target.port⟩

theorem topology_picture (e : Engine) : e.topology.picture = e.picture := by
  simp [Topology.picture, topology, picture, links, TopologyNode.ofHandler, TopologyNode.box,
    TopologyEdge.arrow, List.map_flatMap, Function.comp_def]

theorem Legible.topology (legible : e.Legible) : e.topology.Legible := by
  constructor
  · intro n mem
    obtain ⟨h, mh, rfl⟩ := List.mem_map.mp mem
    exact ⟨h.id.valid, legible.classes h mh⟩
  · intro x mem
    obtain ⟨c, mc, inside⟩ := List.mem_flatMap.mp mem
    obtain ⟨l, ml, rfl⟩ := List.mem_map.mp inside
    have among : l ∈ e.links := List.mem_flatMap.mpr ⟨c, mc, ml⟩
    obtain ⟨unbroken, first⟩ := legible.sources l among
    exact ⟨l.source.handler.valid, l.target.handler.valid, unbroken, first,
      legible.targets l among⟩

/-- The text is a digraph with one statement for each handler and one for each link, in order, from
which all handlers and links are read back. -/
theorem dot_reads_back (e : Engine) (legible : e.Legible) :
    read? e.topology.dotText = some e.topology.digraph ∧
    (read? e.topology.dotText).bind Digraph.picture? = some e.picture ∧
    ∀ d : Engine, d.Legible → d.topology.dotText = e.topology.dotText → d.picture = e.picture := by
  have back : ∀ d : Engine, d.Legible →
      (read? d.topology.dotText).bind Digraph.picture? = some d.picture := by
    intro d legible
    rw [legible.topology.read, Option.bind_some, legible.topology.picture, topology_picture]
  refine ⟨legible.topology.read, back e legible, fun d legible' same => ?_⟩
  have read := back d legible'
  rw [same, back e legible] at read
  exact (Option.some.inj read).symm

end Engine

namespace Hosted

open Engine

theorem dot_reads_back_bridged :
    let after := (cameraAndScreen.connect camera screen).2
    Reachable Quiet after ∧ after.engine.Legible ∧
    (read? after.engine.topology.dotText).bind Digraph.picture? = some {
      boxes := [⟨"camera", "CameraSource", false⟩, ⟨"screen", "Screen", false⟩,
        ⟨"host_to_device_adapter_0", "HostToDeviceAdapter", true⟩]
      arrows := [⟨"camera", "video", "host_to_device_adapter_0", "in"⟩,
        ⟨"host_to_device_adapter_0", "out", "screen", "in"⟩] } := by
  have legible : (cameraAndScreen.connect camera screen).2.engine.Legible :=
    ⟨by decide +kernel, by decide +kernel, by decide +kernel⟩
  obtain ⟨_, back, _⟩ := dot_reads_back _ legible
  exact ⟨camera_and_screen_reachable.next (.connect camera screen), legible,
    back.trans (by decide +kernel)⟩

def empty : Hosted := ⟨.blank 0 (Settings.default.withFps 30.0) none, none⟩

def impostor : Hosted :=
  empty.added (some "camera") (.plain "Camera)\"];\n  \"ghost\" [label=\"ghost\\n(Ghost" [] [])

def haunted : Hosted :=
  (empty.added (some "camera") (.plain "Camera" [] [])).added (some "ghost") (.plain "Ghost" [] [])

def left : HandlerId := ⟨"left", by decide⟩
def right : HandlerId := ⟨"right", by decide⟩

def linked (output input : String) : Hosted :=
  (((empty.added (some "left") (.plain "Left" [.output output .data] [])).added (some "right")
    (.plain "Right" [.input input .data] [])).connect ⟨left, output⟩ ⟨right, input⟩).2

/-- A class name can add a node, and the arrow of a label can be in either port name. -/
theorem dot_reads_back_misnamed :
    Reachable Quiet impostor ∧ Reachable Quiet haunted ∧
    impostor.engine.topology.dotText = haunted.engine.topology.dotText ∧
    impostor.engine.picture ≠ haunted.engine.picture ∧
    Reachable Quiet (linked "a→b" "c") ∧ Reachable Quiet (linked "a" "b→c") ∧
    (linked "a→b" "c").engine.topology.dotText = (linked "a" "b→c").engine.topology.dotText ∧
    (linked "a→b" "c").engine.picture ≠ (linked "a" "b→c").engine.picture := by
  have fresh : Reachable Quiet empty := .fresh (show make 0 .default 30.0 = .ok _ from rfl) none
  have joined (output input : String) : Reachable Quiet (linked output input) :=
    ((fresh.next (.add _ _)).next (.add _ _)).next (.connect _ _)
  refine ⟨fresh.next (.add _ _), (fresh.next (.add _ _)).next (.add _ _), ?_, ?_, joined _ _,
    joined _ _, ?_, ?_⟩
  all_goals decide +kernel

end Hosted

end Tickflow
