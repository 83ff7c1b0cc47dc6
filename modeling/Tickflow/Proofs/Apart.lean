import Tickflow.Proofs.Course
/-!
An engine less what one of its handlers will do, and less what is kept and told of that handler's
calls. What the others do, and what the handler itself does with its ports, does not depend on it.
-/
namespace Tickflow

def Handler.apart (h : Handler) : Handler :=
  { h with
    behaviour := { h.behaviour with process := fun _ => [] }
    state := h.state.begun, stats := ⟨0, 0, none⟩, call := none }

def Notice.blames (x : HandlerId) : Notice → Bool
  | .processFailed id _ _ => decide (id = x)
  | _ => false

namespace Engine

/-- The engine less what the handler `x` will do, and less what is kept and told of its calls. -/
def apart (x : HandlerId) (e : Engine) : Engine :=
  { e with
    handlers := e.handlers.map (changed x Handler.apart)
    notices := e.notices.filter fun n => !n.blames x
    journal := e.journal.filter fun entry => decide (entry.handler ≠ x) }

section
variable {x : HandlerId} {e : Engine}

theorem apart_handler (x id : HandlerId) (e : Engine) :
    (e.apart x).handler? id = (e.handler? id).map (changed x Handler.apart) :=
  find_handler_map (f := changed x Handler.apart) (changed_id (by exact fun _ => rfl) x)
    e.handlers id

theorem apart_elsewhere {id : HandlerId} (other : id ≠ x) (e : Engine) :
    (e.apart x).handler? id = e.handler? id := by
  rw [apart_handler]
  cases found : e.handler? id with
  | none => rfl
  | some h => exact congrArg some (if_neg (by rwa [(mem_of_handler found).2]))

theorem apart_apart (x : HandlerId) (e : Engine) : (e.apart x).apart x = e.apart x := by
  have twice (h : Handler) : changed x Handler.apart (changed x Handler.apart h) =
      changed x Handler.apart h := by
    unfold changed
    by_cases own : h.id = x
    · rw [if_pos own, if_pos (show h.apart.id = x from own)]
      cases state : h.state <;> simp [Handler.apart, LifecycleState.begun, state]
    · rw [if_neg own, if_neg own]
  simp [apart, Function.comp_def, twice]

theorem apart_modify {f : Handler → Handler} {id : HandlerId} (keeps : ∀ h, (f h).id = h.id)
    (blind : id = x → ∀ h, (f h).apart = f h.apart) (e : Engine) :
    (e.modify id f).apart x = (e.apart x).modify id f := by
  have each (h : Handler) : changed x Handler.apart (changed id f h) =
      changed id f (changed x Handler.apart h) := by
    by_cases there : h.id = id
    · have left : changed id f h = f h := if_pos there
      by_cases own : h.id = x
      · have right : changed x Handler.apart h = h.apart := if_pos own
        rw [left, right]
        calc changed x Handler.apart (f h)
          _ = (f h).apart := if_pos ((keeps h).trans own)
          _ = f h.apart := blind (there.symm.trans own) h
          _ = changed id f h.apart := (if_pos there).symm
      · have right : changed x Handler.apart h = h := if_neg own
        rw [left, right, left]
        exact if_neg (by rwa [keeps])
    · have left : changed id f h = h := if_neg there
      have right : changed id f (changed x Handler.apart h) = changed x Handler.apart h := by
        refine if_neg ?_
        rwa [changed_id (by exact fun _ => rfl)]
      rw [left, right]
  have handlers : ((e.modify id f).apart x).handlers = ((e.apart x).modify id f).handlers := by
    simp [apart, each]
  simp only [apart, modify] at handlers ⊢
  rw [handlers]

theorem apart_bind {g : Handler → Option α} (blind : ∀ h, g h.apart = g h) (x id : HandlerId)
    (e : Engine) : ((e.apart x).handler? id).bind g = (e.handler? id).bind g := by
  rw [apart_handler]
  cases e.handler? id with
  | none => rfl
  | some h =>
    change g (changed x Handler.apart h) = g h
    unfold changed
    split
    · exact blind h
    · rfl

theorem apart_readPort (x id : HandlerId) (port : String) (cutoff : Option Nat) (e : Engine) :
    (e.apart x).readPort id port cutoff =
      ((e.readPort id port cutoff).1, (e.readPort id port cutoff).2.apart x) := by
  unfold readPort
  rw [apart_bind fun _ => rfl]
  split <;> rfl

theorem apart_writePort (x id : HandlerId) (port : String) (m : Message) (e : Engine) :
    (e.apart x).writePort id port m =
      ((e.writePort id port m).1, (e.writePort id port m).2.apart x) := by
  unfold writePort
  rw [apart_bind fun _ => rfl]
  split
  · rfl
  · dsimp only
    rw [apart_modify (by exact fun _ => rfl) (by exact fun _ _ => rfl)]
    rfl

theorem apart_writeNoted (x id : HandlerId) (port : String) (m : Message) (event : CallEvent)
    (e : Engine) : (e.apart x).writeNoted id port m event =
      ((e.writeNoted id port m event).1, (e.writeNoted id port m event).2.apart x) := by
  unfold writeNoted
  rw [apart_writePort]
  generalize e.writePort id port m = r
  obtain ⟨result, e₁⟩ := r
  cases result <;> rfl

theorem apart_frozen (x : HandlerId) (bytes : List UInt8) (e : Engine) :
    (e.apart x).frozen bytes = ((e.frozen bytes).1, (e.frozen bytes).2.apart x) := rfl

theorem apart_bridge (x id : HandlerId) (c : Call) (source target : String) (location : Location)
    (e : Engine) : (e.apart x).bridge id c source target location =
      ((e.bridge id c source target location).1,
        (e.bridge id c source target location).2.apart x) := by
  unfold bridge
  rw [show (e.apart x).cutoff c = e.cutoff c from rfl, apart_readPort]
  generalize e.readPort id source (some (e.cutoff c)) = r
  obtain ⟨result, e₁⟩ := r
  cases result with
  | error f => rfl
  | ok found =>
    cases found with
    | none => rfl
    | some m =>
      dsimp only
      rw [apart_bind fun _ => rfl]
      split
      · rfl
      · rw [← apart_modify (by exact fun _ => rfl) (by exact fun _ _ => rfl)]
        rw [apart_frozen]
        exact apart_writeNoted x id target _ _ _

theorem apart_fillBuffer (x id : HandlerId) (c : Call) (length : Nat) (byte : UInt8)
    (port : Option String) (e : Engine) : (e.apart x).fillBuffer id c length byte port =
      ((e.fillBuffer id c length byte port).1, (e.fillBuffer id c length byte port).2.1,
        (e.fillBuffer id c length byte port).2.2.apart x) := by
  unfold fillBuffer
  cases port with
  | none => rfl
  | some port =>
    have pool : (e.apart x).pool = e.pool := rfl
    dsimp only
    rw [pool]
    generalize (e.pool.acquire length).2.freeze ((e.pool.acquire length).1.filled byte) = frozen
    have written := apart_writePort x id port
      (Message.ofHost .data frozen.1 c.tick.timestamp) { e with pool := frozen.2 }
    have moved : ({ e.apart x with pool := frozen.2 } : Engine) =
        ({ e with pool := frozen.2 } : Engine).apart x := rfl
    rw [moved, written]
    generalize ({ e with pool := frozen.2 } : Engine).writePort id port
      (Message.ofHost .data frozen.1 c.tick.timestamp) = r
    obtain ⟨result, e₁⟩ := r
    cases result <;> rfl

theorem apart_act (x id : HandlerId) (c : Call) (a : Action) (e : Engine) :
    (e.apart x).act id c a =
      ((e.act id c a).1, (e.act id c a).2.1, (e.act id c a).2.2.apart x) := by
  have cutoff : (e.apart x).cutoff c = e.cutoff c := rfl
  cases a with
  | noteTick => rfl
  | read port =>
    simp only [act]
    rw [cutoff, apart_readPort]
    generalize e.readPort id port (some (e.cutoff c)) = r
    obtain ⟨result, e₁⟩ := r
    cases result <;> rfl
  | readNow port =>
    simp only [act]
    rw [apart_readPort]
    generalize e.readPort id port none = r
    obtain ⟨result, e₁⟩ := r
    cases result <;> rfl
  | write port m => exact congrArg (Prod.mk []) (apart_writeNoted x id port m _ e)
  | stamp port => exact congrArg (Prod.mk []) (apart_writeNoted x id port _ _ e)
  | capture port => exact congrArg (Prod.mk []) (apart_writeNoted x id port _ _ e)
  | forward source target =>
    simp only [act]
    rw [cutoff, apart_readPort]
    generalize e.readPort id source (some (e.cutoff c)) = r
    obtain ⟨result, e₁⟩ := r
    cases result with
    | error f => rfl
    | ok found =>
      cases found with
      | none => rfl
      | some m => exact congrArg (Prod.mk []) (apart_writeNoted x id target m _ e₁)
  | buffer length byte port => exact apart_fillBuffer x id c length byte port e
  | bridge source target location =>
    exact congrArg (Prod.mk []) (apart_bridge x id c source target location e)
  | fail how => rfl
  | hold => rfl

/-- An action depends on the call that it is in only by its tick and its beginning. -/
theorem act_call {c c' : Call} (tick : c'.tick = c.tick) (began : c'.startedAt = c.startedAt)
    (id : HandlerId) (a : Action) (e : Engine) : e.act id c' a = e.act id c a := by
  obtain ⟨_, _, _, _, _⟩ := c
  obtain ⟨_, _, _, _, _⟩ := c'
  cases tick
  cases began
  cases a <;> rfl

theorem apart_verdict (x id : HandlerId) (c : Call) (e : Engine) :
    (e.apart x).verdict id c = e.verdict id c := by
  unfold verdict
  split
  · rfl
  · rw [apart_act]

theorem apart_outcome (x id : HandlerId) (c : Call) (e : Engine) :
    (e.apart x).outcome id c = e.outcome id c := congrArg (·.2) (apart_verdict x id c e)

theorem apart_acted (x id : HandlerId) (c : Call) (e : Engine) :
    (e.apart x).acted id c = (e.acted id c).apart x := by
  unfold acted
  split
  · rfl
  · rw [apart_act]

theorem apart_setCall {id : HandlerId} (other : id ≠ x) (c : Call) (e : Engine) :
    (e.setCall id c).apart x = (e.apart x).setCall id c :=
  apart_modify (by exact fun _ => rfl) (by exact fun own => absurd own other) e

theorem apart_finish {id : HandlerId} (other : id ≠ x) (c : Call) (how : Option Failure)
    (e : Engine) : (e.finish id c how).apart x = (e.apart x).finish id c how := by
  unfold finish
  rw [apart_modify (by exact fun _ => rfl) (by exact fun own => absurd own other)]
  congr 1
  cases how with
  | none => simp [apart, record, other]
  | some how => simp [apart, record, report, Notice.blames, other]

theorem apart_advance {id : HandlerId} (other : id ≠ x) (c : Call) (e : Engine) :
    (e.advance id c).apart x = (e.apart x).advance id c := by
  rw [advance_verdict, advance_verdict, apart_outcome, apart_verdict, apart_acted]
  cases e.outcome id c with
  | none => exact apart_setCall other _ _
  | some how => exact apart_finish other _ _ _

/-! What the handler itself does. -/

theorem apart_own {f : Handler → Handler} (keeps : ∀ h, (f h).id = h.id)
    (hidden : ∀ h, (f h).apart = h.apart) (e : Engine) : (e.modify x f).apart x = e.apart x := by
  have handlers : ((e.modify x f).apart x).handlers = (e.apart x).handlers := by
    simp only [apart, handlers_modify, List.map_map]
    refine List.map_congr_left fun h _ => ?_
    by_cases own : h.id = x
    · simp [changed, own, keeps, hidden]
    · simp [changed, own]
  simp only [apart, modify] at handlers ⊢
  rw [handlers]

theorem apart_setCall_own (c : Call) (e : Engine) : (e.setCall x c).apart x = e.apart x :=
  apart_own (by exact fun _ => rfl) (by exact fun _ => rfl) e

theorem apart_finish_own (c : Call) (how : Option Failure) (e : Engine) :
    (e.finish x c how).apart x = e.apart x := by
  unfold finish
  rw [apart_own (by exact fun _ => rfl)]
  · cases how with
    | none => simp [apart, record]
    | some how => simp [apart, record, report, Notice.blames]
  · intro h
    cases state : h.state <;> simp [Handler.apart, LifecycleState.begun, state]

theorem apart_advance_own (c : Call) (e : Engine) :
    (e.advance x c).apart x = (e.acted x c).apart x := by
  rw [advance_verdict]
  cases e.outcome x c with
  | none => exact apart_setCall_own _ _
  | some how => exact apart_finish_own _ _ _

theorem acted_head {c : Call} {action : Action} (next : c.rest.head?.map (·.action) = some action)
    (id : HandlerId) (e : Engine) : e.acted id c = (e.act id c action).2.2 := by
  unfold acted
  split
  · rename_i none
    simp [none] at next
  · rename_i s rest some
    rw [some] at next
    cases next
    rfl

theorem acted_inward {c : Call}
    (inward : ((c.rest.head?.map (·.action)).map Action.outward).getD false = false)
    (id : HandlerId) (e : Engine) : e.acted id c = e := by
  cases next : c.rest.head?.map (·.action) with
  | none =>
    have ended : c.rest = [] := by simpa using next
    simp only [acted, ended]
  | some action =>
    rw [acted_head next]
    rw [next] at inward
    cases action <;> first | rfl | cases inward

theorem apart_begin (x id : HandlerId) (e : Engine) :
    (e.beginCall id).apart x = ((e.apart x).beginCall id).apart x := by
  unfold beginCall
  rw [show (e.apart x).broadcaster = e.broadcaster from rfl]
  split
  · rw [apart_apart]
  · rename_i tick channel _
    let b := e.broadcaster.modify id.text fun _ => channel
    have left : ({ e with broadcaster := b } : Engine).handler? id = e.handler? id := rfl
    have right : ({ e.apart x with broadcaster := b } : Engine).handler? id =
        (e.handler? id).map (changed x Handler.apart) := apart_handler x id e
    have twice (n : Nat) : ({ e with broadcaster := b, now := n } : Engine).apart x =
        ({ e.apart x with broadcaster := b, now := n } : Engine).apart x :=
      (apart_apart x { e with broadcaster := b, now := n }).symm
    dsimp only
    rw [left, right]
    cases found : e.handler? id with
    | none => exact twice e.now
    | some h =>
      have active : (changed x Handler.apart h).state.isActive = h.state.isActive := by
        unfold changed
        split
        · change h.state.begun.isActive = h.state.isActive
          cases h.state <;> rfl
        · rfl
      dsimp only [Option.map_some]
      rw [active]
      split
      · by_cases own : id = x
        · subst own
          rw [apart_setCall_own, apart_setCall_own]
          exact twice _
        · have kept : changed x Handler.apart h = h := if_neg (by rwa [(mem_of_handler found).2])
          rw [apart_setCall own, apart_setCall own, kept]
          exact congrArg (setCall id _) (twice _)
      · exact twice e.now

end

end Engine

end Tickflow
