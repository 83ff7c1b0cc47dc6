import Tickflow.HandlerId
/-!
The graph of handlers and the links between them.
-/
namespace Tickflow

structure GraphEdge where
  source : HandlerId
  target : HandlerId
  connection : String
  deriving DecidableEq, Repr

structure HandlerGraph where
  nodes : List HandlerId
  edges : List GraphEdge
  deriving DecidableEq, Repr

namespace HandlerGraph

def empty : HandlerGraph := ⟨[], []⟩

def addHandler (id : HandlerId) (g : HandlerGraph) : HandlerGraph :=
  if g.nodes.contains id then g else { g with nodes := g.nodes ++ [id] }

/-- Links between handlers that are not in the graph are left out. -/
def addLink (source target : HandlerId) (connection : String) (g : HandlerGraph) : HandlerGraph :=
  if g.nodes.contains source && g.nodes.contains target then
    { g with edges := g.edges ++ [⟨source, target, connection⟩] }
  else g

def successors (g : HandlerGraph) (ids : List HandlerId) : List HandlerId :=
  ((g.edges.filter fun e => ids.contains e.source).map (·.target)).eraseDups

def spread (g : HandlerGraph) : (steps : Nat) → (reached : List HandlerId) → List HandlerId
  | 0, reached => reached
  | steps + 1, reached =>
    match (g.successors reached).filter fun id => !reached.contains id with
    | [] => reached
    | new => g.spread steps (reached ++ new)

/-- Every step but the last adds a node, so there are no more steps than nodes. -/
def reachable (g : HandlerGraph) (ids : List HandlerId) : List HandlerId :=
  g.spread g.nodes.length ids

/-- The handlers that can be reached from `id`, without `id`, in the order of their ids. -/
def downstreamOf (g : HandlerGraph) (id : HandlerId) : List HandlerId :=
  if g.nodes.contains id then
    ((g.reachable [id]).filter (· != id)).mergeSort fun a b => decide (a.text ≤ b.text)
  else []

def hasCycle (g : HandlerGraph) : Bool :=
  g.nodes.any fun id => (g.reachable (g.successors [id])).contains id

end HandlerGraph

end Tickflow
