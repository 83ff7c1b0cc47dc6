import Tickflow.Proofs.Atomic
/-!
An engine at work is a shift for each of its handlers. What a handler does in its turns is its own work,
and what the owner and all the other handlers do leaves its desk alone.
-/
namespace Tickflow

namespace Engine

structure Undisturbed (e e' : Engine) : Prop where
  call : ∀ id, (e'.handler? id).bind (·.call) = (e.handler? id).bind (·.call)
  remembered : ∀ id, e'.remembered id = e.remembered id

variable {e e' : Engine}

theorem Undisturbed.refl (e : Engine) : Undisturbed e e := ⟨fun _ => rfl, fun _ => rfl⟩

theorem Undisturbed.symm (same : Undisturbed e e') : Undisturbed e' e :=
  ⟨fun id => (same.call id).symm, fun id => (same.remembered id).symm⟩

theorem Undisturbed.trans {e'' : Engine} (first : Undisturbed e e') (second : Undisturbed e' e'') :
    Undisturbed e e'' :=
  ⟨fun id => (second.call id).trans (first.call id),
    fun id => (second.remembered id).trans (first.remembered id)⟩

theorem map_undisturbed {f : Handler → Handler} (ids : ∀ h, (f h).id = h.id)
    (calls : ∀ h, (f h).call = h.call) (bridged : ∀ h, (f h).bridged = h.bridged)
    (same : e'.handlers = e.handlers.map f) : Undisturbed e e' := by
  have look {α : Type} {g : Handler → Option α} (keeps : ∀ h, g (f h) = g h) (id : HandlerId) :
      (e'.handler? id).bind g = (e.handler? id).bind g := by
    rw [handler?, same, find_handler_map ids, Option.bind_map]
    exact Option.bind_congr fun h _ => keeps h
  exact ⟨look calls, look bridged⟩

theorem unstarted_undisturbed (same : e'.unstarted = e.unstarted) : Undisturbed e e' := by
  have erased (e : Engine) : Undisturbed e e.unstarted :=
    map_undisturbed (f := Handler.unstarted) (fun _ => rfl) (fun _ => rfl) (fun _ => rfl) rfl
  exact (erased e).trans (same ▸ (erased e').symm)

theorem insert_undisturbed (id : HandlerId) (b : Behaviour) (isAdapter : Bool)
    (ports : HandlerPorts) (uri : Option ActorUri) (e : Engine) :
    Undisturbed e (e.insert id b isAdapter ports uri) := by
  have look {α : Type} {g : Handler → Option α}
      (fresh : g (newHandler id b isAdapter ports uri) = none) (x : HandlerId) :
      ((e.insert id b isAdapter ports uri).handler? x).bind g = (e.handler? x).bind g := by
    cases found : e.handler? x with
    | some h => rw [insert_old found]
    | none =>
      refine Option.bind_eq_none_iff.mpr fun h here => ?_
      rw [handler?, insert_handlers, List.find?_append,
        show e.handlers.find? _ = _ from found, Option.none_or] at here
      rw [List.mem_singleton.mp (List.mem_of_find?_eq_some here)]
      exact fresh
  exact ⟨look rfl, look rfl⟩

theorem joined_undisturbed (source target : PortAddress) (policy : ConsumptionPolicy) (e : Engine) :
    Undisturbed e (e.joined source target policy) :=
  map_undisturbed (f := (·.joined source target e.cells.length e.cells.length)) (fun _ => rfl)
    (fun _ => rfl) (fun _ => rfl) rfl

theorem noted_undisturbed (c : Connection) (e : Engine) : Undisturbed e (e.noted c) :=
  ⟨fun _ => rfl, fun _ => rfl⟩

theorem bridged_undisturbed (source target : PortAddress) (a : HandlerId) (r : Route)
    (kind : PayloadKind) (policy : ConsumptionPolicy) (e : Engine) :
    Undisturbed e (e.bridged source target a r kind policy) :=
  ((insert_undisturbed _ _ _ _ _ e).trans (joined_undisturbed _ _ _ _)).trans
    (joined_undisturbed _ _ _ _)

theorem connect_undisturbed (w : e.Wired) (source target : PortAddress) :
    Undisturbed e (e.connectInPlace source target).2 := by
  rcases connectable_or_refused source target e with ⟨q, p, met⟩ | ⟨f, refused⟩
  · cases common : q.spec.capabilities.intersects p.spec.capabilities with
    | true =>
      rw [connect_direct w.distinct w.capacity met common]
      exact (joined_undisturbed source target _ e).trans (noted_undisturbed _ _)
    | false =>
      obtain ⟨r, _, a, _, _, _, made⟩ := connect_bridged w.distinct w.capacity met common
      rw [made]
      exact (bridged_undisturbed source target a r _ _ e).trans (noted_undisturbed _ _)
  · rw [connect_refused refused]
    exact .refl e

end Engine

namespace Hosted

open Engine

theorem command_undisturbed {h h' : Hosted} (w : h.engine.Wired) (command : Command h h') :
    Undisturbed h.engine h'.engine := by
  cases command with
  | add id b =>
    rcases added_cases id b h with same | ⟨x, ports, uri, r, _, _, same⟩
    · rw [same]
      exact .refl _
    · rw [same]
      exact insert_undisturbed x b false ports uri h.engine
  | connect source target => exact connect_undisturbed w source target
  | connectTexts source target =>
    simp only [connectTexts, connectTextsInPlace]
    split
    · exact .refl _
    · exact .refl _
    · exact connect_undisturbed w _ _
  | start => exact unstarted_undisturbed h.start_unstarted
  | stop => exact unstarted_undisturbed h.stop_unstarted
  | quiesce ids => exact unstarted_undisturbed (quiesce_unstarted ids h.engine)
  | tearDown ids => exact unstarted_undisturbed (tearDown_unstarted ids h)
  | registry => exact .refl _

end Hosted

namespace Flow

open Engine

variable {f : Flow} {a : HandlerId} {p : Place}

theorem command_aside (w : f.engine.Wired) {h : Hosted} (command : f.host.Command h)
    (a : HandlerId) : Aside a f [] { f with host := h } := by
  have same := Hosted.command_undisturbed w command
  refine ⟨.command command, ?_, by simp⟩
  simp only [desk, engine, same.call a, same.remembered a]

theorem issue_aside (frame : Nat) (timestamp delta : Float) (running : f.engine.state = .running) :
    Aside a f [.issued ⟨frame, timestamp, delta, f.engine.now + 1⟩]
      (f.put (f.engine.issue frame timestamp delta)) :=
  ⟨issue_step frame timestamp delta running, rfl, by simp⟩

theorem resume_aside {id : HandlerId} (other : id ≠ a) : Aside a f [] (f.put (f.engine.resume id)) := by
  have keeps : ∀ h : Handler,
      ({ h with call := h.call.map fun c => { c with held := false } } : Handler).still = h.still := by
    intro h
    simp [Handler.still, Function.comp_def]
  refine ⟨.still (still_modify keeps id f.engine) (Nat.le_refl _), ?_, by simp⟩
  exact desk_same (modify_other (by exact fun _ => rfl) other _) rfl fun _ => rfl

theorem look_aside {id : HandlerId} (other : id ≠ a) (port : String) (cutoff : Option Nat) :
    Shift a f p (seen ⟨id, port⟩ none cutoff f.engine) [] (f.got ⟨id, port⟩ cutoff) p := by
  have reads : (_ ∧ f.got ⟨id, port⟩ cutoff = f) ∨ _ := got_step ⟨id, port⟩ none (by simp)
  rcases reads with ⟨nothing, same⟩ | step
  · rw [nothing, same]
    exact .refl
  · refine Shift.refl.aside ⟨step, got_desk _ _ f a, fun port' n look x mem => ?_⟩
    obtain ⟨_, _, same⟩ := mem_seen mem
    cases same
    exact other rfl

end Flow

/-- Whether it is a deed of the handlers or the clock, in which nobody reaches over to the handler. -/
def Engine.Deed.spares (a : HandlerId) : Engine.Deed → Bool
  | .issued _ | .begun _ | .stepped .. => true
  | .resumed id | .wrote id .. | .looked id .. => decide (id ≠ a)
  | .planned .. | .halted _ | .closed => false

namespace Flow

open Engine

variable {f g : Flow} {a : HandlerId} {e' : Engine}

theorem does_shift (w : f.engine.Wired) (free : ∀ b, f.parcels b = none) {d : Deed}
    (does : Does f.engine d e') (spares : d.spares a = true) :
    ∃ t looks, Shift a f .between t ((d.ending? a).map (·.failure)).toList
      ⟨{ f.host with engine := e' }, f.parcels, looks⟩ .between ∧ issues t = d.tick?.toList := by
  cases does with
  | issue frame timestamp delta running =>
    exact ⟨_, _, Shift.refl.aside (issue_aside frame timestamp delta running), rfl⟩
  | plan => cases spares
  | halt => cases spares
  | close => cases spares
  | begin id idle =>
    have begins : Own id f .between [] none (f.put (f.engine.beginCall id)) .between :=
      .begin f.engine.now idle (beginCall_later id f.engine)
    by_cases same : id = a
    · subst same
      exact ⟨_, _, Shift.refl.own begins, rfl⟩
    · exact ⟨_, _, begins.aside w.distinct same .between, rfl⟩
  | advance id c current =>
    obtain ⟨t, looks, stretch, quiet⟩ := advance_straight w current fun port => free ⟨id, port⟩
    by_cases same : id = a
    · subst same
      refine ⟨t, looks, ?_, quiet⟩
      have ending : ((Deed.stepped id (c.rest.head?.map (·.action))
          ((f.engine.outcome id c).map (⟨c.tick, ·⟩))).ending? id).map (·.failure) =
            f.engine.outcome id c := by
        simp [Deed.ending?, Function.comp_def]
      rw [ending]
      exact stretch.own
    · refine ⟨t, looks, ?_, quiet⟩
      simp only [Deed.ending?, if_neg same]
      exact stretch.others a same .between
  | resume id =>
    exact ⟨_, _, Shift.refl.aside (resume_aside (of_decide_eq_true spares)), rfl⟩
  | write id port m =>
    have writes := write_stretch w port (free ⟨id, port⟩) m fun _ => .ended [] (.ok [])
    exact ⟨_, _, writes.others a (of_decide_eq_true spares) .between, written_issues _ _ _⟩
  | read id port cutoff =>
    exact ⟨_, _, look_aside (of_decide_eq_true spares) port cutoff, seen_issues _ _ _ _⟩

/-- An engine that goes about its work is a shift for the handler `a`, with the same ticks, and the calls
of `a` end in the shift as they ended there. -/
theorem course_shift (w : f.engine.Wired) (free : ∀ b, f.parcels b = none) {deeds : List Deed}
    (course : Course f.engine deeds e') (spares : ∀ d ∈ deeds, d.spares a = true) :
    ∃ t looks, Shift a f .between t ((endings a deeds).map (·.failure))
      ⟨{ f.host with engine := e' }, f.parcels, looks⟩ .between ∧ issues t = ticks deeds := by
  induction course with
  | refl => exact ⟨[], f.looks, .refl, rfl⟩
  | @tail deeds d e₁ e₂ _ does ih =>
    obtain ⟨t, looks, shift, told⟩ := ih fun x mem => spares x (List.mem_append_left _ mem)
    obtain ⟨s, looks', next, told'⟩ := does_shift (run_wired w (shift.run w)) free does
      (spares d (List.mem_append_right _ (List.mem_singleton_self d)))
    refine ⟨t ++ s, looks', ?_, ?_⟩
    · rw [endings_snoc, List.map_append, ← Option.toList_map]
      exact shift.trans next
    · rw [ticks_snoc, issues_append, told, told']

end Flow

end Tickflow
