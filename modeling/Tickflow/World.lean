import Tickflow.Engine.Status
import Tickflow.Pipeline
import Tickflow.Tick.Clock
/-!
All engines and registries of a process. Registries are shared between engines; one of them is the
process's own, which is made when it is first needed.
-/
namespace Tickflow

/-- An engine, the number of the registry it uses, and its stages when it was built as a
pipeline. -/
structure Resident where
  engine : Engine
  registry : Option Nat
  stages : Option (List (HandlerId × Dispatcher))

/-- `shared` is the number of the process's own registry, while there is one. -/
structure World where
  residents : List Resident
  registries : List ActorRegistry
  shared : Option Nat

namespace World

def empty : World := ⟨[], [], none⟩

def newRegistry (w : World) : Nat × World :=
  (w.registries.length, { w with registries := w.registries ++ [.empty] })

def registry? (key : Nat) (w : World) : Option ActorRegistry := w.registries[key]?

def setRegistry (key : Nat) (r : ActorRegistry) (w : World) : World :=
  { w with registries := w.registries.set key r }

def ownRegistry (w : World) : Nat × World :=
  match w.shared with
  | some key => (key, w)
  | none =>
    let (key, w) := w.newRegistry
    (key, { w with shared := some key })

def initRegistry (w : World) : Nat × World :=
  let (key, w) := w.newRegistry
  (key, { w with shared := some key })

def resetRegistry (w : World) : World :=
  match w.shared with
  | some key => w.setRegistry key .empty
  | none => w

def teardownRegistry (w : World) : World := { w with shared := none }

def resident? (key : Nat) (w : World) : Option Resident := w.residents[key]?

def hosted? (key : Nat) (w : World) : Option Hosted :=
  (w.resident? key).map fun r => ⟨r.engine, r.registry.bind w.registry?⟩

def putHosted (key : Nat) (h : Hosted) (w : World) : World :=
  match w.resident? key with
  | none => w
  | some r =>
    let w := { w with residents := w.residents.set key { r with engine := h.engine } }
    match r.registry, h.registry with
    | some rk, some registry => w.setRegistry rk registry
    | _, _ => w

def putEngine (key : Nat) (e : Engine) (w : World) : World :=
  { w with residents := w.residents.modify key fun r => { r with engine := e } }

def useRegistry (key registry : Nat) (w : World) : World :=
  { w with residents := w.residents.modify key fun r => { r with registry := some registry } }

def setStages (key : Nat) (stages : Option (List (HandlerId × Dispatcher))) (w : World) : World :=
  { w with residents := w.residents.modify key fun r => { r with stages } }

/-- Makes an engine driven at the rate `fps`. It uses the registry of the process if its settings
say so. -/
def create (settings : Settings) (fps : Float) (w : World) : Except Fault (Nat × World) := do
  let key := w.residents.length
  let engine ← Engine.make key settings fps
  let (registry, w) :=
    if settings.autoRegister then
      let (rk, w) := w.ownRegistry
      (some rk, w)
    else (none, w)
  return (key, { w with residents := w.residents ++ [⟨engine, registry, none⟩] })

/-- Makes an engine with a clock of its own, which has to be able to keep the rate. -/
def createClocked (settings : Settings) (w : World) : Except Failure (Nat × World) := do
  settings.validate.mapError Failure.fault
  let clock ← SoftwareClock.make settings.fps SoftwareClock.defaultId 0
  (w.create settings clock.fps).mapError Failure.fault

def drop (key : Nat) (w : World) : World :=
  match w.hosted? key with
  | none => w
  | some h => w.putHosted key h.stop

/-- Begins a chain on an engine, which counts as no chain until the new one is built. -/
def beginPipeline (key : Nat) (w : World) : PipelineBuilder :=
  match w.hosted? key with
  | some host => .onEngine host
  | none => ⟨none, [], none, none⟩

/-- Takes up the engine of a chain, if it is on one. It is stopped for good when the chain could
not be built. -/
def endPipeline (key : Option Nat) (b : PipelineBuilder) (w : World) :
    Except Failure Unit × World :=
  let placed := match key, b.host with
    | some key, some host => w.putHosted key host
    | _, _ => w
  match b.build, key with
  | .ok (_, stages), some key => (.ok (), placed.setStages key (some stages))
  | .ok _, none => (.ok (), placed)
  | .error failure, some key => (.error failure, placed.drop key)
  | .error failure, none => (.error failure, placed)

def isRunning (actor : ActorRef) (w : World) : Bool :=
  (((w.resident? actor.engine).bind fun r => r.engine.handler? actor.handler).map
    fun h => h.state.isActive).getD false

def withoutTraces (w : World) : World :=
  { w with residents := w.residents.map fun r => { r with engine := r.engine.withoutTraces } }

def notices (w : World) : List Notice := w.residents.flatMap fun r => r.engine.notices

def journal (w : World) : List JournalEntry :=
  w.residents.flatMap fun r => r.engine.shown r.engine.journal

end World

end Tickflow
