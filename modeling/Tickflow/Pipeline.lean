import Tickflow.Engine.Lifecycle
/-!
Building a chain of handlers stage by stage. An effect or a sink is fed by the stage before it. The
first thing that goes wrong is kept, and nothing is changed after it.
-/
namespace Tickflow

/-- A chain under construction. `previous` is the stage that the next one is fed by. -/
structure PipelineBuilder where
  host : Option Hosted
  stages : List (HandlerId × Dispatcher)
  previous : Option HandlerId
  failure : Option Failure

inductive StageRole where
  | source
  | effect
  | sink
  deriving DecidableEq, Repr

namespace PipelineBuilder

def onEngine (host : Hosted) : PipelineBuilder := ⟨some host, [], none, none⟩

def failed (failure : Failure) : PipelineBuilder := ⟨none, [], none, some failure⟩

def lastId (b : PipelineBuilder) : Option HandlerId := b.stages.getLast?.map (·.1)

def feed (previous id : HandlerId) (e : Engine) : Except Failure Engine := do
  let output := (e.handler? previous).bind (·.ports.defaultOutput)
  let input := (e.handler? id).bind (·.ports.defaultInput)
  match output, input with
  | none, _ => .error (.fault (.portNotFound (previous.text ++ " has no output port")))
  | _, none => .error (.fault (.portNotFound (id.text ++ " has no input port")))
  | some output, some input => do
    let (_, e) ← e.connect ⟨previous, output⟩ ⟨id, input⟩
    return e

def wire (role : StageRole) (id : HandlerId) (host : Hosted) (b : PipelineBuilder) :
    PipelineBuilder :=
  match role with
  | .source => b
  | .effect | .sink =>
    match b.previous with
    | none => { b with failure := some (.fault (.configuration (.nothingBefore id.text))) }
    | some previous =>
      match feed previous id host.engine with
      | .ok engine => { b with host := some { host with engine } }
      | .error failure => { b with failure := some failure }

def stage (role : StageRole) (behaviour : Behaviour) (b : PipelineBuilder) : PipelineBuilder :=
  match b.failure, b.host with
  | none, some host =>
    match host.addHandler none behaviour with
    | .error fault => { b with failure := some (.fault fault) }
    | .ok (id, host) =>
      let b := { b with
        host := some host, stages := b.stages ++ [(id, behaviour.dispatcher)] }
      { b.wire role id host with previous := if role = .sink then none else some id }
  | _, _ => b

def connect (source target : String) (b : PipelineBuilder) : PipelineBuilder :=
  match b.failure, b.host with
  | none, some host =>
    match host.engine.connectTexts source target with
    | .ok (_, engine) => { b with host := some { host with engine } }
    | .error failure => { b with failure := some failure }
  | _, _ => b

/-- The engine with its stages, when nothing went wrong and there is at least one stage. -/
def build (b : PipelineBuilder) : Except Failure (Hosted × List (HandlerId × Dispatcher)) :=
  match b.failure, b.host with
  | some failure, _ => .error failure
  | none, none => .error (.fault (.configuration .noRuntime))
  | none, some host =>
    if b.stages.isEmpty then .error (.fault (.configuration .noStages))
    else .ok (host, b.stages)

end PipelineBuilder

end Tickflow
