import Tickflow.Engine.State
import Tickflow.Format.Json
/-!
A picture of an engine's handlers and links, and its texts: JSON, a DOT digraph, and lines to report.
-/
namespace Tickflow

structure PortInfo where
  name : String
  kind : String
  capabilities : String
  deriving DecidableEq, Repr

structure TopologyNode where
  id : String
  className : String
  dispatcher : String
  isAdapter : Bool
  inputs : List PortInfo
  outputs : List PortInfo
  deriving DecidableEq, Repr

/-- One link. The links of one connection name the same connection. -/
structure TopologyEdge where
  connection : String
  sourceHandler : String
  sourcePort : String
  targetHandler : String
  targetPort : String
  policy : String
  deriving DecidableEq, Repr

structure Topology where
  nodes : List TopologyNode
  edges : List TopologyEdge
  deriving DecidableEq, Repr

def PortInfo.ofSpec (s : PortSpec) : PortInfo := ⟨s.name, s.kind.text, s.capabilities.text⟩

def TopologyNode.ofHandler (h : Handler) : TopologyNode :=
  { id := h.id.text, className := h.behaviour.className
    dispatcher := h.behaviour.dispatcher.text, isAdapter := h.isAdapter
    inputs := h.ports.inputs.map fun p => .ofSpec p.spec
    outputs := h.ports.outputs.map fun p => .ofSpec p.spec }

namespace Engine

def policyText (e : Engine) (l : Link) : String :=
  ((e.cells[l.cell]?).map (·.policy.text)).getD ""

def topology (e : Engine) : Topology where
  nodes := e.handlers.map .ofHandler
  edges := e.connections.flatMap fun c => c.links.map fun l =>
    ⟨c.id, l.source.handler.text, l.source.port, l.target.handler.text, l.target.port,
      e.policyText l⟩

end Engine

namespace Topology

def adapterCount (t : Topology) : Nat := (t.nodes.filter (·.isAdapter)).length

def jsonOfPort (p : PortInfo) : Json :=
  .ofFields [("port_name", .ofString p.name), ("kind", .ofString p.kind),
    ("capabilities", .ofString p.capabilities)]

def jsonOfNode (n : TopologyNode) : Json :=
  .ofFields [("handler_id", .ofString n.id), ("class_name", .ofString n.className),
    ("dispatcher", .ofString n.dispatcher), ("adapter", .bool n.isAdapter),
    ("inputs", .array (n.inputs.map jsonOfPort)), ("outputs", .array (n.outputs.map jsonOfPort))]

def jsonOfEdge (e : TopologyEdge) : Json :=
  .ofFields [("connection", .ofString e.connection), ("from_handler", .ofString e.sourceHandler),
    ("from_port", .ofString e.sourcePort), ("to_handler", .ofString e.targetHandler),
    ("to_port", .ofString e.targetPort), ("policy", .ofString e.policy)]

def toJson (t : Topology) : Json :=
  .ofFields [("nodes", .array (t.nodes.map jsonOfNode)),
    ("edges", .array (t.edges.map jsonOfEdge))]

def jsonText (t : Topology) : String := t.toJson.pretty 0

def dotNode (n : TopologyNode) : String :=
  let style := if n.isAdapter then ", style=dashed" else ""
  "  \"" ++ n.id ++ "\" [label=\"" ++ n.id ++ "\\n(" ++ n.className ++ ")\"" ++ style ++ "];\n"

def dotEdge (e : TopologyEdge) : String :=
  "  \"" ++ e.sourceHandler ++ "\" -> \"" ++ e.targetHandler ++ "\" [label=\"" ++
    e.sourcePort ++ "→" ++ e.targetPort ++ "\"];\n"

def dotText (t : Topology) : String :=
  "digraph StreamGraph \x7b\n  rankdir=LR;\n  node [shape=box];\n\n" ++
    String.join (t.nodes.map dotNode) ++ "\n" ++ String.join (t.edges.map dotEdge) ++ "\x7d\n"

def lines (t : Topology) : List String :=
  (s!"[Topology] {t.nodes.length} node(s), {t.edges.length} edge(s), " ++
    s!"{t.adapterCount} adapter(s)") ::
  t.edges.map fun e =>
    s!"[Topology]   {e.sourceHandler}.{e.sourcePort} -> {e.targetHandler}.{e.targetPort} " ++
      s!"({e.policy}, {e.connection})"

end Topology

end Tickflow
