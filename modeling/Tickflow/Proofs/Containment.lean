import Tickflow.Proofs.Accounts
import Tickflow.Proofs.Apart
/-!
How the calls of a handler end is its own affair. Two courses in which it reads and writes alike,
and all else is chosen alike, leave the same to everyone else: ticks, calls, states and messages.
-/
namespace Tickflow

namespace Engine

/-! What others see of a course. -/

namespace Deed

/-- Whether it is something that nobody but the handler `x` notices. -/
def hidden (x : HandlerId) : Deed → Bool
  | .planned id _ | .resumed id => decide (id = x)
  | .stepped id action _ => decide (id = x) && !(action.map Action.outward).getD false
  | _ => false

/-- The deed as it was chosen, less what came of it. Of an action only those of `x` are told, as the
script tells the others. -/
def outline (x : HandlerId) : Deed → Deed
  | .stepped id action _ => .stepped id (if id = x then action else none) none
  | k => k

theorem outline_plain {x : HandlerId} {k k' : Deed}
    (plain : ∀ id a ending, k ≠ .stepped id a ending) (same : k'.outline x = k.outline x) :
    k' = k := by
  have left : k.outline x = k := by
    cases k with
    | stepped id a ending => exact absurd rfl (plain id a ending)
    | _ => rfl
  rw [left] at same
  cases k' with
  | stepped id a ending => exact absurd same.symm (plain _ _ _)
  | _ => exact same

theorem outline_stepped {x id : HandlerId} {a : Option Action} {ending : Option Ending} {k : Deed}
    (same : k.outline x = (Deed.stepped id a ending).outline x) :
    ∃ a' ending', k = .stepped id a' ending' ∧ (id = x → a' = a) := by
  cases k with
  | stepped id' a' ending' =>
    simp only [outline, stepped.injEq] at same
    obtain ⟨rfl, action, _⟩ := same
    exact ⟨a', ending', rfl, fun own => by simpa [own] using action⟩
  | _ => simp [outline] at same

end Deed

/-- What all but the handler `x` may notice of a course. -/
def seen (x : HandlerId) (t : List Deed) : List Deed :=
  (t.filter fun k => !k.hidden x).map (Deed.outline x)

theorem seen_snoc (x : HandlerId) (t : List Deed) (k : Deed) :
    seen x (t ++ [k]) = if k.hidden x then seen x t else seen x t ++ [k.outline x] := by
  unfold seen
  cases hidden : k.hidden x <;> simp [hidden]

end Engine

def Handler.stint (h : Handler) : Option (Tick × Nat) := h.call.map fun c => (c.tick, c.startedAt)

namespace Engine

def stint (x : HandlerId) (e : Engine) : Option (Tick × Nat) := (e.handler? x).bind Handler.stint

section
variable {x id : HandlerId} {e e' : Engine} {f : Handler → Handler}

theorem stint_call (x : HandlerId) (e : Engine) :
    e.stint x = ((e.handler? x).bind (·.call)).map fun c => (c.tick, c.startedAt) := by
  unfold stint
  cases e.handler? x <;> rfl

theorem openCall_stint {c : Call} (current : e.openCall? x = some c) :
    e.stint x = some (c.tick, c.startedAt) := by
  obtain ⟨h, found, call⟩ := openCall_held current
  simp [stint_call, found, call]

theorem stint_modify (keeps : ∀ h, (f h).id = h.id) (same : ∀ h, (f h).stint = h.stint)
    (id x : HandlerId) (e : Engine) : (e.modify id f).stint x = e.stint x := by
  by_cases own : id = x
  · subst own
    rw [stint, modify_own keeps, Option.bind_map]
    exact Option.bind_congr fun h _ => same h
  · rw [stint, modify_other keeps own, stint]

theorem stint_elsewhere (keeps : ∀ h, (f h).id = h.id) (other : id ≠ x) (e : Engine) :
    (e.modify id f).stint x = e.stint x := by
  rw [stint, modify_other keeps other, stint]

theorem Acts.stint (acts : Acts e e') (x : HandlerId) : e'.stint x = e.stint x :=
  acts.handler (fun _ => rfl) x

theorem setCall_stint {c : Call} (current : e.stint x = some (c.tick, c.startedAt)) :
    (e.setCall x c).stint x = e.stint x := by
  obtain ⟨h, found, _⟩ := Option.bind_eq_some_iff.mp current
  rw [current, setCall, stint, modify_own (by exact fun _ => rfl), found]
  rfl

theorem finish_stint (c : Call) (how : Option Failure) (e : Engine) :
    (e.finish x c how).stint x = none := by
  unfold finish
  rw [stint, modify_own (by exact fun _ => rfl), Option.bind_map]
  exact Option.bind_eq_none_iff.mpr fun _ _ => rfl

theorem finish_elsewhere (other : id ≠ x) (c : Call) (how : Option Failure) (e : Engine) :
    (e.finish id c how).stint x = e.stint x := by
  unfold finish
  rw [stint_elsewhere (by exact fun _ => rfl) other]
  cases how <;> rfl

theorem advance_elsewhere (d : e.Distinct) (other : id ≠ x) (c : Call) :
    (e.advance id c).stint x = e.stint x := by
  have acted := (acted_acts d id c).stint x
  rw [advance_verdict]
  cases e.outcome id c with
  | none => exact (stint_elsewhere (by exact fun _ => rfl) other _).trans acted
  | some how => exact (finish_elsewhere other _ how _).trans acted

theorem advance_stint (d : e.Distinct) {c : Call} (current : e.openCall? x = some c) :
    (e.advance x c).stint x = none ∨ (e.advance x c).stint x = e.stint x := by
  have acted := (acted_acts d x c).stint x
  obtain ⟨tick, began⟩ := verdict_call x c e
  rw [advance_verdict]
  cases e.outcome x c with
  | none =>
    refine .inr ((setCall_stint ?_).trans acted)
    rw [acted, openCall_stint current, tick, began]
  | some how => exact .inl (finish_stint _ how _)

theorem begin_stint (free : (e.handler? x).bind (·.call) = none) :
    (e.beginCall x).stint x = none ∨ ∃ c tick rest, e.broadcaster.channel? x.text = some c ∧
      c.queue = tick :: rest ∧ (e.beginCall x).stint x = some (tick, e.now + 1) := by
  have idle : e.stint x = none := by rw [stint_call, free, Option.map_none]
  rcases beginCall_cases x e with
    same | ⟨c, tick, rest, here, queue, ⟨_, same⟩ | ⟨h, found, _, begun⟩⟩
  · rw [same]
    exact .inl idle
  · rw [same]
    exact .inl idle
  · refine .inr ⟨c, tick, rest, here, queue, ?_⟩
    rw [begun, setCall, stint, modify_own (by exact fun _ => rfl)]
    change ((e.handler? x).map _).bind _ = _
    rw [found]
    rfl

theorem begin_elsewhere (other : id ≠ x) (e : Engine) : (e.beginCall id).stint x = e.stint x := by
  rcases beginCall_cases id e with same | ⟨c, tick, rest, _, _, ⟨_, same⟩ | ⟨h, _, _, begun⟩⟩
  · rw [same]
  · rw [same]
    rfl
  · rw [begun]
    exact stint_elsewhere (by exact fun _ => rfl) other _

end

/-- The engines differ only in what is set apart of the handler; if it is in a call in both, then in
one that began alike. -/
structure Abreast (x : HandlerId) (e f : Engine) : Prop where
  apart : f.apart x = e.apart x
  stint : ∀ s s', e.stint x = some s → f.stint x = some s' → s' = s

section
variable {x : HandlerId} {e e' f f' : Engine} {k k' : Deed}

theorem Abreast.symm (a : Abreast x e f) : Abreast x f e :=
  ⟨a.apart.symm, fun s s' left right => (a.stint s' s right left).symm⟩

theorem Abreast.other (a : Abreast x e f) {id : HandlerId} (other : id ≠ x) :
    f.handler? id = e.handler? id := by
  rw [← apart_elsewhere other e, ← apart_elsewhere other f, a.apart]

theorem Abreast.moved (a : Abreast x e f) (op : Engine → Engine)
    (blind : ∀ e, (op e).apart x = op (e.apart x)) (left : (op e).stint x = e.stint x)
    (right : (op f).stint x = f.stint x) : Abreast x (op e) (op f) := by
  refine ⟨by rw [blind, blind, a.apart], ?_⟩
  rw [left, right]
  exact a.stint

theorem Abreast.current (a : Abreast x e f) {id : HandlerId} (other : id ≠ x) :
    f.openCall? id = e.openCall? id := by
  rw [openCall?, openCall?, a.other other]

theorem Abreast.begin (a : Abreast x e f) (id : HandlerId)
    (free : (e.handler? id).bind (·.call) = none) (free' : (f.handler? id).bind (·.call) = none) :
    Abreast x (e.beginCall id) (f.beginCall id) := by
  refine ⟨by rw [apart_begin, a.apart, ← apart_begin], ?_⟩
  by_cases own : id = x
  · subst own
    intro s s' left right
    rcases begin_stint free with idle | ⟨c, tick, rest, here, queue, began⟩
    · rw [idle] at left
      cases left
    rcases begin_stint free' with idle | ⟨c', tick', rest', here', queue', began'⟩
    · rw [idle] at right
      cases right
    have broadcaster : f.broadcaster = e.broadcaster := (congrArg Engine.broadcaster a.apart :)
    have now : f.now = e.now := (congrArg Engine.now a.apart :)
    rw [broadcaster, here] at here'
    cases here'
    rw [queue] at queue'
    cases queue'
    rw [began] at left
    rw [began', now] at right
    exact (Option.some.inj right).symm.trans (Option.some.inj left)
  · rw [begin_elsewhere own, begin_elsewhere own]
    exact a.stint

theorem Abreast.advance_own (a : Abreast x e f) (d : e.Distinct) (d' : f.Distinct) {c c' : Call}
    (current : e.openCall? x = some c) (current' : f.openCall? x = some c')
    (outward : ((c.rest.head?.map (·.action)).map Action.outward).getD false = true)
    (same : c'.rest.head?.map (·.action) = c.rest.head?.map (·.action)) :
    Abreast x (e.advance x c) (f.advance x c') := by
  obtain ⟨tick, began⟩ :=
    Prod.mk.inj (a.stint _ _ (openCall_stint current) (openCall_stint current'))
  constructor
  · cases next : c.rest.head?.map (·.action) with
    | none => simp [next] at outward
    | some action =>
      calc (f.advance x c').apart x
        _ = (f.act x c' action).2.2.apart x := by
          rw [apart_advance_own, acted_head (same.trans next)]
        _ = ((f.apart x).act x c action).2.2 := by rw [apart_act, act_call tick began]
        _ = ((e.apart x).act x c action).2.2 := by rw [a.apart]
        _ = (e.advance x c).apart x := by rw [apart_act, apart_advance_own, acted_head next]
  · intro s s' left right
    rcases advance_stint d current with ended | kept
    · rw [ended] at left
      cases left
    rcases advance_stint d' current' with ended | kept'
    · rw [ended] at right
      cases right
    exact a.stint s s' (kept ▸ left) (kept' ▸ right)

theorem hidden_step (d : e.Distinct) (step : Does e k e') (hidden : k.hidden x = true) :
    e'.apart x = e.apart x ∧ (e'.stint x = none ∨ e'.stint x = e.stint x) ∧
      ∀ y, y ≠ x → k.ending? y = none := by
  cases step with
  | plan id process =>
    have own : id = x := by simpa [Deed.hidden] using hidden
    subst own
    refine ⟨apart_own ?_ ?_ e, .inr (stint_modify ?_ ?_ id id e), fun _ _ => rfl⟩ <;>
      exact fun _ => rfl
  | resume id =>
    have own : id = x := by simpa [Deed.hidden] using hidden
    subst own
    refine ⟨apart_own ?_ ?_ e, .inr (stint_modify ?_ ?_ id id e), fun _ _ => rfl⟩
    · exact fun _ => rfl
    · exact fun _ => rfl
    · exact fun _ => rfl
    · exact fun h => by cases call : h.call <;> simp [Handler.stint, call]
  | advance id c current =>
    simp only [Deed.hidden, Bool.and_eq_true, decide_eq_true_eq, Bool.not_eq_true'] at hidden
    obtain ⟨own, inward⟩ := hidden
    subst own
    refine ⟨?_, advance_stint d current, fun y other => if_neg (Ne.symm other)⟩
    rw [apart_advance_own, acted_inward inward]
  | _ => cases hidden

theorem seen_step (d : e.Distinct) (d' : f.Distinct) (a : Abreast x e f) (step : Does e k e')
    (step' : Does f k' f') (shown : k.hidden x = false) (same : k'.outline x = k.outline x) :
    Abreast x e' f' ∧ ∀ y, y ≠ x → k'.ending? y = k.ending? y := by
  cases step with
  | issue frame timestamp delta running =>
    have label := Deed.outline_plain (by simp) same
    cases step' with
    | issue =>
      simp only [Deed.issued.injEq, Tick.mk.injEq] at label
      obtain ⟨rfl, rfl, rfl, _⟩ := label
      exact ⟨a.moved (Engine.issue _ _ _) (fun _ => rfl) rfl rfl, fun _ _ => rfl⟩
    | _ => cases label
  | plan id process =>
    cases Deed.outline_plain (by simp) same
    cases step' with
    | plan =>
      have other : id ≠ x := by simpa [Deed.hidden] using shown
      refine ⟨a.moved (Engine.planned id process) ?_ ?_ ?_, fun _ _ => rfl⟩
      · exact apart_modify (by exact fun _ => rfl) (by exact fun own => absurd own other)
      · exact stint_elsewhere (by exact fun _ => rfl) other e
      · exact stint_elsewhere (by exact fun _ => rfl) other f
  | begin id free =>
    cases Deed.outline_plain (by simp) same
    cases step' with
    | begin _ free' => exact ⟨a.begin id free free', fun _ _ => rfl⟩
  | advance id c current =>
    obtain ⟨action, ending, rfl, told⟩ := Deed.outline_stepped same
    cases step' with
    | advance _ c' current' =>
      by_cases own : id = x
      · subst own
        refine ⟨a.advance_own d d' current current' ?_ (told rfl), fun y other => ?_⟩
        · simpa [Deed.hidden] using shown
        · exact (if_neg (Ne.symm other)).trans (if_neg (Ne.symm other)).symm
      · cases (current'.symm.trans (a.current own)).trans current
        refine ⟨a.moved (Engine.advance id c) (apart_advance own c) ?_ ?_, fun y _ => ?_⟩
        · exact advance_elsewhere d own c
        · exact advance_elsewhere d' own c
        · rw [← apart_outcome x id c f, a.apart, apart_outcome]
  | resume id =>
    cases Deed.outline_plain (by simp) same
    cases step' with
    | resume =>
      have other : id ≠ x := by simpa [Deed.hidden] using shown
      refine ⟨a.moved (Engine.resume id) ?_ ?_ ?_, fun _ _ => rfl⟩
      · exact apart_modify (by exact fun _ => rfl) (by exact fun own => absurd own other)
      · exact stint_elsewhere (by exact fun _ => rfl) other e
      · exact stint_elsewhere (by exact fun _ => rfl) other f
  | write id port m =>
    cases Deed.outline_plain (by simp) same
    cases step' with
    | write =>
      exact ⟨a.moved (fun e => (e.writePort id port m).2)
        (fun e => by rw [apart_writePort]) ((writePort_acts d id port m).stint x)
        ((writePort_acts d' id port m).stint x), fun _ _ => rfl⟩
  | read id port cutoff =>
    cases Deed.outline_plain (by simp) same
    cases step' with
    | read =>
      exact ⟨a.moved (fun e => (e.readPort id port cutoff).2)
        (fun e => by rw [apart_readPort]) ((readPort_acts id port cutoff e).stint x)
        ((readPort_acts id port cutoff f).stint x), fun _ _ => rfl⟩
  | halt id =>
    cases Deed.outline_plain (by simp) same
    cases step' with
    | halt =>
      refine ⟨a.moved (Engine.setState id .stopping) ?_ ?_ ?_, fun _ _ => rfl⟩
      · exact apart_modify (by exact fun _ => rfl) (by exact fun _ _ => rfl)
      · exact stint_modify (by exact fun _ => rfl) (by exact fun _ => rfl) id x e
      · exact stint_modify (by exact fun _ => rfl) (by exact fun _ => rfl) id x f
  | close =>
    cases Deed.outline_plain (by simp) same
    cases step' with
    | close => exact ⟨a.moved Engine.closed (fun _ => rfl) rfl rfl, fun _ _ => rfl⟩

theorem Abreast.hidden_left (a : Abreast x e f) (d : e.Distinct) (step : Does e k e')
    (hidden : k.hidden x = true) : Abreast x e' f := by
  obtain ⟨apart, stint, _⟩ := hidden_step d step hidden
  refine ⟨a.apart.trans apart.symm, fun s s' left right => ?_⟩
  rcases stint with ended | kept
  · rw [ended] at left
    cases left
  · exact a.stint s s' (kept ▸ left) right

theorem Abreast.hidden_right (a : Abreast x e f) (d : f.Distinct) (step : Does f k f')
    (hidden : k.hidden x = true) : Abreast x e f' :=
  (a.symm.hidden_left d step hidden).symm

end

section
variable {x : HandlerId} {e e' f f' : Engine} {t s : List Deed}

/-- What is seen of two courses being alike, they lead from alike to alike, and the others' calls
end alike. -/
theorem seen_course (d : e.Distinct) (d' : f.Distinct) (a : Abreast x e f) (course : Course e t e')
    (course' : Course f s f') (same : seen x t = seen x s) :
    Abreast x e' f' ∧ ∀ y, y ≠ x → endings y t = endings y s := by
  have skip {t s : List Deed} {k : Deed} {e₁ e₂ : Engine} (d : e₁.Distinct) (step : Does e₁ k e₂)
      (hidden : k.hidden x = true) (ends : ∀ y, y ≠ x → endings y t = endings y s) (y : HandlerId)
      (other : y ≠ x) : endings y t = endings y (s ++ [k]) := by
    rw [endings_snoc, (hidden_step d step hidden).2.2 y other, ends y other]
    simp
  -- A course that ends with something hidden is cut short; otherwise both end with what was seen.
  induction course generalizing s f' with
  | refl =>
    induction course' with
    | refl => exact ⟨a, fun _ _ => rfl⟩
    | @tail s k f₁ f₂ first' step' ih' =>
      rw [seen_snoc] at same
      split at same
      · rename_i hidden
        obtain ⟨b, ends⟩ := ih' same
        have d₁ := course_distinct d' first'
        exact ⟨b.hidden_right d₁ step' hidden, skip d₁ step' hidden ends⟩
      · simp [seen] at same
  | @tail t k e₁ e₂ first step ih =>
    have d₁ := course_distinct d first
    rw [seen_snoc] at same
    split at same
    · rename_i hidden
      obtain ⟨b, ends⟩ := ih course' same
      refine ⟨b.hidden_left d₁ step hidden, fun y other => ?_⟩
      exact (skip d₁ step hidden (fun y other => (ends y other).symm) y other).symm
    · rename_i shown
      induction course' with
      | refl => simp [seen] at same
      | @tail s k' f₁ f₂ first' step' ih' =>
        have d₁' := course_distinct d' first'
        rw [seen_snoc] at same
        split at same
        · rename_i hidden
          obtain ⟨b, ends⟩ := ih' same
          exact ⟨b.hidden_right d₁' step' hidden, skip d₁' step' hidden ends⟩
        · obtain ⟨before, last⟩ := List.append_inj' same rfl
          obtain ⟨b, ends⟩ := ih first' before
          obtain ⟨after, ending⟩ := seen_step d₁ d₁' b step step' (by simpa using shown)
            (List.cons.inj last).1.symm
          refine ⟨after, fun y other => ?_⟩
          rw [endings_snoc, endings_snoc, ends y other, ending y other]

structure Unaffected (x : HandlerId) (e f : Engine) : Prop where
  handlers : ∀ y, y ≠ x → f.handler? y = e.handler? y
  ports : (f.handler? x).map (·.ports) = (e.handler? x).map (·.ports)
  cells : f.cells = e.cells
  broadcaster : f.broadcaster = e.broadcaster
  journal : ∀ y, y ≠ x →
    f.journal.filter (fun entry => entry.handler = y) =
      e.journal.filter fun entry => entry.handler = y
  notices : f.notices.filter (fun n => !n.blames x) = e.notices.filter fun n => !n.blames x

theorem Abreast.unaffected (a : Abreast x e f) : Unaffected x e f := by
  have ports (e : Engine) :
      (e.handler? x).map (·.ports) = ((e.apart x).handler? x).map (·.ports) := by
    rw [apart_handler, Option.map_map]
    congr 1
    funext h
    rw [Function.comp_apply, changed]
    split <;> rfl
  have journal (e : Engine) {y : HandlerId} (other : y ≠ x) :
      e.journal.filter (fun entry => entry.handler = y) =
        (e.apart x).journal.filter fun entry => entry.handler = y := by
    refine Eq.trans ?_ List.filter_filter.symm
    refine List.filter_congr fun entry _ => ?_
    by_cases here : entry.handler = y
    · simp [here, other]
    · simp [here]
  refine ⟨fun y other => a.other other, ?_, (congrArg Engine.cells a.apart :),
    (congrArg Engine.broadcaster a.apart :), fun y other => ?_, (congrArg Engine.notices a.apart :)⟩
  · rw [ports, a.apart, ← ports]
  · rw [journal f other, a.apart, ← journal e other]

end

end Engine

end Tickflow
