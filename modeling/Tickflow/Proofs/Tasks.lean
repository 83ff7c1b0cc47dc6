import Tickflow.Engine.Calls
/-!
Actions taken apart. An action uses its handler's ports, the pool and what its handler noted, one
after another, and how it goes on depends on what it got. Carried out without a break, this is what
the engine does for the action at once.
-/
namespace Tickflow

/-- What is left of an action: what it does next, and how it goes on from there. -/
inductive Task where
  | ended (noted : List CallEvent) (result : Except Failure (List CallEvent))
  /-- Asks which writes the call may see. -/
  | look (next : Nat → Task)
  /-- Reads of these writes. -/
  | see (port : String) (next : Except Fault (Option Message) → Task)
  | read (port : String) (next : Except Fault (Option Message) → Task)
  /-- Asks for the number that was noted last. -/
  | ask (next : Option Nat → Task)
  | note (number : Nat) (next : Task)
  | acquire (length : Nat) (next : Lease → Task)
  | release (lease : Lease) (next : Task)
  | freeze (lease : Lease) (next : List UInt8 → Task)
  | write (port : String) (m : Message) (next : Except Fault Unit → Task)

namespace Task

def stops (f : Fault) : Task := .ended [] (.error (.fault f))

def shows (port : String) : Except Fault (Option Message) → Task
  | .ok m => .ended [] (.ok [.read port m])
  | .error f => stops f

def written (event : CallEvent) : Except Fault Unit → Task
  | .ok () => .ended [] (.ok [event])
  | .error f => stops f

def forwards (target : String) : Except Fault (Option Message) → Task
  | .error f => stops f
  | .ok none => .ended [] (.ok [.forwarded none])
  | .ok (some m) => .write target m (written (.forwarded (some target)))

/-- Writes the message, in memory of its own, to where it is moved. -/
def moves (target : String) (location : Location) (m : Message) : Task :=
  .acquire m.bytes.length fun lease => .freeze (lease.holding m.bytes) fun bytes =>
    .write target (m.relocated location bytes) (written (.wrote target))

def bridges (target : String) (location : Location) : Except Fault (Option Message) → Task
  | .error f => stops f
  | .ok none => .ended [] (.ok [])
  | .ok (some m) => .ask fun last =>
    if last = some m.sequence then .ended [] (.ok []) else .note m.sequence (moves target location m)

def buffers (c : Call) (byte : UInt8) (port : Option String) (lease : Lease) : Task :=
  let event := CallEvent.buffered lease.bytes.length (lease.bytes.all (· == 0))
  match port with
  | none => .release (lease.filled byte) (.ended [event] (.ok []))
  | some port => .freeze (lease.filled byte) fun bytes =>
    .write port (.ofHost .data bytes c.tick.timestamp) fun
      | .ok () => .ended [event] (.ok [])
      | .error f => .ended [event] (.error (.fault f))

def run (id : HandlerId) (c : Call) :
    Task → Engine → List CallEvent × Except Failure (List CallEvent) × Engine
  | .ended noted result, e => (noted, result, e)
  | .look next, e => (next (e.cutoff c)).run id c e
  | .see port next, e =>
    let read := e.readPort id port (some (e.cutoff c))
    (next read.1).run id c read.2
  | .read port next, e => (next (e.readPort id port none).1).run id c (e.readPort id port none).2
  | .ask next, e => (next ((e.handler? id).bind (·.bridged))).run id c e
  | .note number next, e => next.run id c (e.modify id fun h => { h with bridged := some number })
  | .acquire length next, e =>
    (next (e.pool.acquire length).1).run id c { e with pool := (e.pool.acquire length).2 }
  | .release lease next, e => next.run id c { e with pool := e.pool.release lease }
  | .freeze lease next, e =>
    (next (e.pool.freeze lease).1).run id c { e with pool := (e.pool.freeze lease).2 }
  | .write port m next, e => (next (e.writePort id port m).1).run id c (e.writePort id port m).2

end Task

def Action.task (c : Call) : Action → Task
  | .noteTick => .look fun cutoff =>
    .ended [] (.ok [.ticked c.tick (decide (c.tick.issuedAt ≤ cutoff))])
  | .read port => .see port (.shows port)
  | .readNow port => .read port (.shows port)
  | .write port m => .write port m (.written (.wrote port))
  | .stamp port => .write port
    (.ofHost .data [UInt8.ofNat (c.tick.frame / 256), UInt8.ofNat c.tick.frame] c.tick.timestamp)
    (.written (.wrote port))
  | .capture port => .write port
    (.ofHost (.video 1 1) [UInt8.ofNat c.tick.frame] c.tick.timestamp) (.written (.wrote port))
  | .forward source target => .see source (.forwards target)
  | .buffer length byte port => .acquire length (.buffers c byte port)
  | .bridge source target location => .see source (.bridges target location)
  | .fail how => .ended [] (.error how)
  | .hold => .ended [] (.ok [])

namespace Engine

variable {id : HandlerId} {c : Call} {e : Engine}

theorem run_written (port : String) (m : Message) (event : CallEvent) :
    (Task.write port m (.written event)).run id c e = ([], e.writeNoted id port m event) := by
  unfold Task.run writeNoted
  split <;> rename_i result <;> rw [result] <;> rfl

theorem act_task (id : HandlerId) (c : Call) (a : Action) (e : Engine) :
    e.act id c a = (a.task c).run id c e := by
  cases a with
  | noteTick | fail | hold => rfl
  | read port =>
    simp only [act, Action.task, Task.run]
    split <;> rename_i result <;> rw [result] <;> rfl
  | readNow port =>
    simp only [act, Action.task, Task.run]
    split <;> rename_i result <;> rw [result] <;> rfl
  | write port m => exact (run_written port m _).symm
  | stamp port => exact (run_written port _ _).symm
  | capture port => exact (run_written port _ _).symm
  | forward source target =>
    simp only [act, Action.task, Task.run]
    split <;> rename_i result <;> rw [result]
    · rfl
    · rfl
    · exact (run_written target _ _).symm
  | buffer length byte port =>
    cases port with
    | none => rfl
    | some port =>
      simp only [act, fillBuffer, Action.task, Task.buffers, Task.run]
      split <;> rename_i result <;> rw [result] <;> rfl
  | bridge source target location =>
    simp only [act, bridge, Action.task, Task.run]
    split <;> rename_i result <;> rw [result]
    · rfl
    · rfl
    · simp only [Task.bridges, Task.run]
      split
      · rfl
      · exact (run_written target _ _).symm

end Engine

end Tickflow
