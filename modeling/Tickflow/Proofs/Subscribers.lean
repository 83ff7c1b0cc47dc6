import Mathlib.Data.List.Basic
import Tickflow.Tick.Broadcast
/-!
What becomes of the ticks that a broadcaster hands out. Subscribers are numbered as they come, and each
of them has a receiver, which may be dropped at any time. A tick is received, waits or was missed, and it
is missed only by those whose queue was full; nobody notices what the others do with their ticks.
-/
namespace Tickflow

namespace TickChannel

inductive Finding where
  | waiting (tick : Tick)
  | nothing
  | ended
  deriving DecidableEq

def Finding.tick? : Finding → Option Tick
  | .waiting tick => some tick
  | _ => none

def found (c : TickChannel) : Finding :=
  match c.received with
  | some (tick, _) => .waiting tick
  | none => if c.isOver then .ended else .nothing

def asked (c : TickChannel) : TickChannel :=
  if c.listening then ((c.received).map (·.2)).getD c else c

end TickChannel

namespace TickBroadcaster

open TickChannel

inductive Use where
  | subscribe (name : String)
  | broadcast (tick : Tick)
  | receive (n : Nat)
  /-- The receiver is dropped. -/
  | leave (n : Nat)
  | clear
  deriving DecidableEq

def modifyAt (n : Nat) (f : TickChannel → TickChannel) (b : TickBroadcaster) : TickBroadcaster :=
  { b with channels := b.channels.modify n f }

def use (b : TickBroadcaster) : Use → TickBroadcaster
  | .subscribe name => b.subscribe name
  | .broadcast tick => (b.broadcast tick).2
  | .receive n => b.modifyAt n asked
  | .leave n => b.modifyAt n fun c => { c with listening := false }
  | .clear => b.clear

def useAll (us : List Use) (b : TickBroadcaster) : TickBroadcaster := us.foldl use b

def found (n : Nat) (b : TickBroadcaster) : Option Finding :=
  (b.channels[n]?).bind fun c => if c.listening then some c.found else none

def isFull (n : Nat) (b : TickBroadcaster) : Bool :=
  ((b.channels[n]?).map (·.isFull b.depth)).getD false

def receipts (n : Nat) : List Use → TickBroadcaster → List Tick
  | [], _ => []
  | u :: rest, b =>
    (if u = .receive n then ((b.found n).bind Finding.tick?).toList else []) ++
      receipts n rest (b.use u)

/-- The ticks that are broadcast, each with whether the queue of the subscriber `n` is full then. -/
def offers (n : Nat) : List Use → TickBroadcaster → List (Tick × Bool)
  | [], _ => []
  | u :: rest, b =>
    (match u with
      | .broadcast tick => [(tick, b.isFull n)]
      | _ => []) ++ offers n rest (b.use u)

def broadcasts (us : List Use) : List Tick :=
  us.filterMap fun
    | .broadcast tick => some tick
    | _ => none

def Use.concerns (n : Nat) : Use → Bool
  | .broadcast _ | .clear => true
  | .receive m | .leave m => m == n
  | .subscribe _ => false

end TickBroadcaster

/-! One channel. -/

namespace TickChannel

open TickBroadcaster

def under (depth n : Nat) (u : Use) (c : TickChannel) : TickChannel :=
  match u with
  | .broadcast tick => c.sent depth tick
  | .receive m => if m = n then c.asked else c
  | .leave m => if m = n then { c with listening := false } else c
  | .clear => { c with attached := false }
  | .subscribe _ => c

def underAll (depth n : Nat) (us : List Use) (c : TickChannel) : TickChannel :=
  us.foldl (fun c u => c.under depth n u) c

def handed (n : Nat) (u : Use) (c : TickChannel) : List Tick :=
  if u = .receive n ∧ c.listening then c.found.tick?.toList else []

def handedAll (depth n : Nat) : List Use → TickChannel → List Tick
  | [], _ => []
  | u :: rest, c => c.handed n u ++ handedAll depth n rest (c.under depth n u)

theorem under_unconcerned {n : Nat} {u : Use} (unconcerned : u.concerns n = false) (depth : Nat)
    (c : TickChannel) : c.under depth n u = c := by
  cases u with
  | broadcast tick => cases unconcerned
  | clear => cases unconcerned
  | subscribe name => rfl
  | receive m => exact if_neg (by simpa [Use.concerns] using unconcerned)
  | leave m => exact if_neg (by simpa [Use.concerns] using unconcerned)

section
variable {c : TickChannel} {depth : Nat} {tick : Tick}

theorem sent_cases (attached : c.attached = true) (listening : c.listening = true) (depth : Nat)
    (tick : Tick) :
    (c.isFull depth = true ∧ c.sent depth tick = { c with missed := c.missed + 1 }) ∨
    (c.isFull depth = false ∧ c.sent depth tick = { c with queue := c.queue ++ [tick] }) := by
  cases full : c.isFull depth with
  | true => exact .inl ⟨rfl, by simp [sent, attached, listening, full]⟩
  | false => exact .inr ⟨rfl, by simp [sent, attached, listening, full]⟩

theorem sent_detached (detached : c.attached = false) (depth : Nat) (tick : Tick) :
    c.sent depth tick = c := by
  simp [sent, detached]

theorem takes_iff (depth : Nat) (tick : Tick) (c : TickChannel) :
    c.takes depth = true ↔ (c.sent depth tick).queue = c.queue ++ [tick] := by
  cases attached : c.attached with
  | false => simp [takes, sent, attached]
  | true =>
    cases listening : c.listening with
    | false => simp [takes, sent, attached, listening]
    | true =>
      rcases sent_cases attached listening depth tick with ⟨full, same⟩ | ⟨room, same⟩
      · simp [takes, attached, listening, full, same]
      · simp [takes, attached, listening, room, same]

theorem sent_attached (depth : Nat) (tick : Tick) (c : TickChannel) :
    (c.sent depth tick).attached = (c.attached && c.listening) := by
  cases attached : c.attached with
  | false => simp [sent, attached]
  | true =>
    cases listening : c.listening with
    | false => simp [sent, attached, listening]
    | true =>
      rcases sent_cases attached listening depth tick with ⟨_, same⟩ | ⟨_, same⟩ <;>
        simp [same, attached]

theorem asked_queue (listening : c.listening = true) :
    c.found.tick?.toList ++ c.asked.queue = c.queue ∧ c.asked = { c with queue := c.asked.queue } := by
  obtain ⟨name, queue, missed, attached, _⟩ := c
  cases listening
  cases queue with
  | nil =>
    refine ⟨?_, rfl⟩
    cases attached <;> rfl
  | cons tick rest => exact ⟨rfl, rfl⟩

theorem found_detached (detached : c.attached = false) :
    c.found = match c.queue with
      | [] => .ended
      | tick :: _ => .waiting tick := by
  obtain ⟨name, queue, missed, attached, listening⟩ := c
  cases detached
  cases queue <;> rfl

end

end TickChannel

namespace TickBroadcaster

open TickChannel

variable {b : TickBroadcaster} {n : Nat} {c : TickChannel}

theorem use_depth (u : Use) (b : TickBroadcaster) : (b.use u).depth = b.depth := by
  cases u <;> rfl

theorem useAll_depth (us : List Use) (b : TickBroadcaster) : (b.useAll us).depth = b.depth := by
  induction us generalizing b with
  | nil => rfl
  | cons u rest ih => exact (ih (b.use u)).trans (use_depth u b)

theorem use_channel (here : b.channels[n]? = some c) (u : Use) :
    (b.use u).channels[n]? = some (c.under b.depth n u) := by
  cases u with
  | subscribe name =>
    obtain ⟨bound, _⟩ := List.getElem?_eq_some_iff.mp here
    exact (List.getElem?_append_left bound).trans here
  | broadcast tick => simp [use, broadcast, under, here]
  | clear => simp [use, clear, under, here]
  | receive m =>
    rw [use, modifyAt, List.getElem?_modify, here, under]
    split <;> rfl
  | leave m =>
    rw [use, modifyAt, List.getElem?_modify, here, under]
    split <;> rfl

theorem found_here (here : b.channels[n]? = some c) :
    b.found n = if c.listening then some c.found else none := by
  simp [found, here]

theorem isFull_here (here : b.channels[n]? = some c) : b.isFull n = c.isFull b.depth := by
  simp [isFull, here]

/-! Conservation. -/

def accepted (offers : List (Tick × Bool)) : List Tick := (offers.filter (!·.2)).map (·.1)

def refused (offers : List (Tick × Bool)) : Nat := (offers.filter (·.2)).length

theorem offers_split (offers : List (Tick × Bool)) :
    (accepted offers).Sublist (offers.map (·.1)) ∧
      offers.length = (accepted offers).length + refused offers := by
  refine ⟨List.filter_sublist.map _, ?_⟩
  rw [accepted, refused, List.length_map, Nat.add_comm]
  exact (List.filter_append_perm (·.2) offers).length_eq.symm.trans List.length_append

theorem receipts_cons (n : Nat) (u : Use) (us : List Use) (b : TickBroadcaster) :
    receipts n (u :: us) b = receipts n [u] b ++ receipts n us (b.use u) := by
  simp [receipts]

theorem offers_cons (n : Nat) (u : Use) (us : List Use) (b : TickBroadcaster) :
    offers n (u :: us) b = offers n [u] b ++ offers n us (b.use u) := by
  simp [offers]

theorem offers_broadcasts (n : Nat) (us : List Use) (b : TickBroadcaster) :
    (offers n us b).map (·.1) = broadcasts us := by
  induction us generalizing b with
  | nil => rfl
  | cons u rest ih =>
    rw [offers_cons, List.map_append, ih]
    cases u <;> rfl

structure Kept (depth : Nat) (got : List Tick) (offered : List (Tick × Bool))
    (c c' : TickChannel) : Prop where
  attached : c'.attached = true
  listening : c'.listening = true
  ticks : got ++ c'.queue = c.queue ++ accepted offered
  missed : c'.missed = c.missed + refused offered
  bound : c.queue.length ≤ depth → c'.queue.length ≤ depth

theorem Kept.refl (depth : Nat) (attached : c.attached = true) (listening : c.listening = true) :
    Kept depth [] [] c c :=
  ⟨attached, listening, (List.append_nil _).symm, rfl, id⟩

theorem Kept.trans {depth : Nat} {got got' : List Tick} {offered offered' : List (Tick × Bool)}
    {c' c'' : TickChannel} (first : Kept depth got offered c c')
    (second : Kept depth got' offered' c' c'') :
    Kept depth (got ++ got') (offered ++ offered') c c'' := by
  refine ⟨second.attached, second.listening, ?_, ?_, fun bound => second.bound (first.bound bound)⟩
  · rw [List.append_assoc, second.ticks, ← List.append_assoc, first.ticks, List.append_assoc]
    simp [accepted]
  · rw [second.missed, first.missed, Nat.add_assoc]
    simp [refused]

theorem use_kept (here : b.channels[n]? = some c) (attached : c.attached = true)
    (listening : c.listening = true) {u : Use} (stays : u ≠ .leave n) (uncleared : u ≠ .clear) :
    Kept b.depth (receipts n [u] b) (offers n [u] b) c (c.under b.depth n u) := by
  have same : Kept b.depth [] [] c c := .refl _ attached listening
  cases u with
  | subscribe name => exact same
  | clear => exact absurd rfl uncleared
  | leave m =>
    have other : m ≠ n := fun same => stays (same ▸ rfl)
    simpa [receipts, offers, under, other] using same
  | receive m =>
    by_cases at_n : m = n
    · subst m
      obtain ⟨ticks, rest⟩ := asked_queue listening
      have got : receipts n [.receive n] b = c.found.tick?.toList := by
        simp [receipts, found_here here, listening]
      rw [got, under, if_pos rfl]
      refine ⟨?_, ?_, ?_, ?_, ?_⟩
      · rw [rest]
        exact attached
      · rw [rest]
        exact listening
      · rw [ticks]
        exact (List.append_nil _).symm
      · rw [rest]
        rfl
      · intro bound
        rw [← ticks, List.length_append] at bound
        omega
    · simpa [receipts, offers, under, at_n] using same
  | broadcast tick =>
    have offered : offers n [.broadcast tick] b = [(tick, c.isFull b.depth)] := by
      simp [offers, isFull_here here]
    rw [offered, under]
    rcases sent_cases attached listening b.depth tick with ⟨full, sent⟩ | ⟨room, sent⟩
    · rw [full, sent]
      exact ⟨attached, listening, by simp [receipts, accepted], by simp [refused], id⟩
    · rw [room, sent]
      refine ⟨attached, listening, by simp [receipts, accepted], by simp [refused], fun _ => ?_⟩
      simp only [TickChannel.isFull, decide_eq_false_iff_not, Nat.not_le] at room
      rw [List.length_append]
      exact room

theorem useAll_kept (here : b.channels[n]? = some c) (attached : c.attached = true)
    (listening : c.listening = true) {us : List Use} (stays : .leave n ∉ us)
    (uncleared : .clear ∉ us) : ∃ c', (b.useAll us).channels[n]? = some c' ∧
      Kept b.depth (receipts n us b) (offers n us b) c c' := by
  induction us generalizing b c with
  | nil => exact ⟨c, here, .refl _ attached listening⟩
  | cons u rest ih =>
    rw [List.mem_cons, not_or] at stays uncleared
    have first := use_kept here attached listening (Ne.symm stays.1) (Ne.symm uncleared.1)
    obtain ⟨c', there, second⟩ := ih (use_channel here u) first.attached first.listening stays.2
      uncleared.2
    rw [use_depth] at second
    refine ⟨c', there, ?_⟩
    rw [receipts_cons, offers_cons]
    exact first.trans second

/-! Independence. -/

theorem receipts_unconcerned {u : Use} (unconcerned : u.concerns n = false)
    (b : TickBroadcaster) : receipts n [u] b = [] := by
  have other : u ≠ .receive n := by
    rintro rfl
    simp [Use.concerns] at unconcerned
  simp [receipts, other]

theorem receipts_here (here : b.channels[n]? = some c) (u : Use) :
    receipts n [u] b = c.handed n u := by
  cases listening : c.listening <;> simp [receipts, handed, found_here here, listening]

theorem useAll_concerned (here : b.channels[n]? = some c) (us : List Use) :
    receipts n us b = c.handedAll b.depth n (us.filter (·.concerns n)) ∧
      (b.useAll us).channels[n]? = some (c.underAll b.depth n (us.filter (·.concerns n))) := by
  induction us generalizing b c with
  | nil => exact ⟨rfl, here⟩
  | cons u rest ih =>
    have next := use_channel here u
    obtain ⟨got, left⟩ := ih next
    rw [use_depth] at got left
    rw [receipts_cons, got, List.filter_cons]
    cases concerned : u.concerns n with
    | true => exact ⟨by rw [receipts_here here, if_pos rfl, handedAll], left⟩
    | false =>
      rw [under_unconcerned concerned] at left ⊢
      exact ⟨by rw [receipts_unconcerned concerned, if_neg (by simp), List.nil_append], left⟩

theorem receipts_alone {b' : TickBroadcaster} {us us' : List Use} (depth : b'.depth = b.depth)
    (here : b.channels[n]? = some c) (there : b'.channels[n]? = some c)
    (same : us'.filter (·.concerns n) = us.filter (·.concerns n)) :
    receipts n us' b' = receipts n us b ∧
      (b'.useAll us').channels[n]? = (b.useAll us).channels[n]? := by
  obtain ⟨got, left⟩ := useAll_concerned here us
  obtain ⟨got', left'⟩ := useAll_concerned there us'
  rw [got, got', left, left', same, depth]
  exact ⟨rfl, rfl⟩

/-! The end of a subscription. -/

theorem use_detached (here : b.channels[n]? = some c) (detached : c.attached = false)
    (listening : c.listening = true) {u : Use} (stays : u ≠ .leave n) :
    receipts n [u] b ++ (c.under b.depth n u).queue = c.queue ∧
      (c.under b.depth n u).attached = false ∧ (c.under b.depth n u).listening = true := by
  cases u with
  | subscribe name => exact ⟨rfl, detached, listening⟩
  | clear => exact ⟨rfl, rfl, listening⟩
  | leave m =>
    have other : m ≠ n := fun same => stays (same ▸ rfl)
    simp [receipts, under, other, detached, listening]
  | broadcast tick => simp [receipts, under, sent_detached detached, detached, listening]
  | receive m =>
    by_cases at_n : m = n
    · subst m
      obtain ⟨ticks, rest⟩ := asked_queue listening
      rw [under, if_pos rfl, rest]
      refine ⟨?_, detached, listening⟩
      simpa [receipts, found_here here, listening] using ticks
    · simp [receipts, under, at_n, detached, listening]

theorem useAll_detached (here : b.channels[n]? = some c) (detached : c.attached = false)
    (listening : c.listening = true) {us : List Use} (stays : .leave n ∉ us) :
    ∃ c', (b.useAll us).channels[n]? = some c' ∧ receipts n us b ++ c'.queue = c.queue ∧
      (b.useAll us).found n = some (match c'.queue with
        | [] => .ended
        | tick :: _ => .waiting tick) := by
  induction us generalizing b c with
  | nil =>
    refine ⟨c, here, rfl, ?_⟩
    rw [← found_detached detached]
    exact (found_here here).trans (if_pos listening)
  | cons u rest ih =>
    rw [List.mem_cons, not_or] at stays
    obtain ⟨ticks, detached', listening'⟩ := use_detached here detached listening (Ne.symm stays.1)
    obtain ⟨c', there, later, finds⟩ := ih (use_channel here u) detached' listening' stays.2
    refine ⟨c', there, ?_, finds⟩
    rw [receipts_cons, List.append_assoc, later, ticks]

/-! One broadcast. -/

theorem broadcast_count (tick : Tick) (b : TickBroadcaster) :
    (b.broadcast tick).1 = ((b.channels.zip (b.broadcast tick).2.channels).filter fun p =>
      p.2.queue = p.1.queue ++ [tick]).length := by
  have each : (b.channels.filter (·.takes b.depth)).length =
      ((b.channels.map fun c => (c, c.sent b.depth tick)).filter fun p =>
        p.2.queue = p.1.queue ++ [tick]).length := by
    rw [List.filter_map, List.length_map]
    congr 2
    funext c
    exact Bool.eq_iff_iff.mpr ((takes_iff b.depth tick c).trans (by simp))
  rw [List.map_prod_left_eq_zip] at each
  exact each

theorem broadcast_subscribers (tick : Tick) (b : TickBroadcaster) :
    (b.broadcast tick).2.subscriberCount =
      (b.channels.filter fun c => c.attached && c.listening).length := by
  have same : (·.attached) ∘ (sent b.depth tick ·) = fun c => c.attached && c.listening := by
    funext c
    exact sent_attached b.depth tick c
  rw [subscriberCount, broadcast, List.filter_map, same, List.length_map]

theorem make_depth (depth : Nat) (us : List Use) : ((make depth).useAll us).depth = max depth 1 :=
  useAll_depth us _

theorem subscribed (name : String) (b : TickBroadcaster) :
    (b.use (.subscribe name)).channels[b.channels.length]? = some (.opened name) :=
  List.getElem?_concat_length

/-- The account of the subscriber `n` of a broadcaster, from the moment that it came. As long as it
stays, each tick is received, waits or was missed, the missed ones being those that came while its
queue was full. It gets the same ticks whatever the others are and do. A broadcast counts those
that it reaches and removes those that left. What waits when all subscriptions end is still received,
and then the receiver finds that it is over. -/
theorem fan_out_conserves (depth : Nat) (before after : List Use) (name : String) :
    let b := (make depth).useAll before
    let n := b.channels.length
    let b₁ := b.use (.subscribe name)
    let b₂ := b₁.useAll after
    (.leave n ∉ after → .clear ∉ after → ∃ c, b₂.channels[n]? = some c ∧
      (broadcasts after).length = (receipts n after b₁).length + c.queue.length + c.missed ∧
      c.queue.length ≤ max depth 1 ∧
      (receipts n after b₁ ++ c.queue).Sublist (broadcasts after) ∧
      (offers n after b₁).map (·.1) = broadcasts after ∧
      receipts n after b₁ ++ c.queue = accepted (offers n after b₁) ∧
      c.missed = refused (offers n after b₁)) ∧
    (∀ (others : TickBroadcaster) (after' : List Use), others.depth = max depth 1 →
      others.channels[n]? = some (.opened name) →
      after'.filter (·.concerns n) = after.filter (·.concerns n) →
      receipts n after' others = receipts n after b₁ ∧
        (others.useAll after').channels[n]? = b₂.channels[n]?) ∧
    (∀ tick, (b₂.broadcast tick).1 = ((b₂.channels.zip (b₂.broadcast tick).2.channels).filter
        fun p => p.2.queue = p.1.queue ++ [tick]).length ∧
      (b₂.broadcast tick).2.subscriberCount =
        (b₂.channels.filter fun c => c.attached && c.listening).length ∧
      ∀ (m : Nat) (c : TickChannel), b₂.channels[m]? = some c → c.listening = false →
        ∃ c', (b₂.broadcast tick).2.channels[m]? = some c' ∧ c'.attached = false) ∧
    (∀ (later : List Use) (c : TickChannel), b₂.channels[n]? = some c → c.listening = true →
      .leave n ∉ later →
      ∃ c', (b₂.clear.useAll later).channels[n]? = some c' ∧
        receipts n later b₂.clear ++ c'.queue = c.queue ∧
        (b₂.clear.useAll later).found n = some (match c'.queue with
          | [] => .ended
          | tick :: _ => .waiting tick)) := by
  intro b n b₁ b₂
  have here : b₁.channels[n]? = some (.opened name) := subscribed name b
  have wide : b₁.depth = max depth 1 := (use_depth _ b).trans (make_depth depth before)
  refine ⟨?_, ?_, ?_, ?_⟩
  · intro stays uncleared
    obtain ⟨c, there, kept⟩ := useAll_kept here rfl rfl stays uncleared
    obtain ⟨some_of_them, all_of_them⟩ := offers_split (offers n after b₁)
    have ticks : receipts n after b₁ ++ c.queue = accepted (offers n after b₁) := kept.ticks
    have missed : c.missed = refused (offers n after b₁) := kept.missed.trans (Nat.zero_add _)
    have told := offers_broadcasts n after b₁
    refine ⟨c, there, ?_, wide ▸ kept.bound (Nat.zero_le _), ?_, told, ticks, missed⟩
    · rw [← told, List.length_map, all_of_them, ← ticks, ← missed, List.length_append]
    · rw [ticks, ← told]
      exact some_of_them
  · intro others after' wide' there same
    exact receipts_alone (wide'.trans wide.symm) here there same
  · intro tick
    refine ⟨broadcast_count tick b₂, broadcast_subscribers tick b₂, ?_⟩
    intro m c there gone
    have removed : (c.sent b₂.depth tick).attached = false := by
      rw [sent_attached, gone, Bool.and_false]
    exact ⟨_, use_channel there (.broadcast tick), removed⟩
  · intro later c there listening stays
    exact useAll_detached (use_channel there .clear) rfl listening stays

/-! A subscriber with room for one tick. -/

def beat (frame : Nat) : Tick := ⟨frame, 0.0, 0.0, frame⟩

def lagging : List Use :=
  [.broadcast (beat 1), .broadcast (beat 2), .receive 1, .leave 0, .broadcast (beat 3)]

theorem fan_out_conserves_lagging :
    let b₁ := (make 0).useAll [.subscribe "other", .broadcast (beat 0), .subscribe "slow"]
    let b₂ := b₁.useAll lagging
    receipts 1 lagging b₁ = [beat 1] ∧
    (∃ c, b₂.channels[1]? = some c ∧ c.queue = [beat 3] ∧ c.missed = 1 ∧
      (broadcasts lagging).length = [beat 1].length + c.queue.length + c.missed) ∧
    receipts 1 (lagging.erase (.leave 0))
      ((make 1).useAll [.subscribe "another", .subscribe "slow"]) = [beat 1] ∧
    (b₂.broadcast (beat 4)).1 = 0 ∧
    (∃ c, (b₂.broadcast (beat 4)).2.channels[0]? = some c ∧ c.attached = false) ∧
    receipts 1 [.receive 1] b₂.clear = [beat 3] ∧
    (b₂.clear.useAll [.receive 1]).found 1 = some .ended := by
  intro b₁ b₂
  obtain ⟨stays, apart, removed, ends⟩ :=
    fan_out_conserves 0 [.subscribe "other", .broadcast (beat 0)] lagging "slow"
  have got : receipts 1 lagging b₁ = [beat 1] := rfl
  refine ⟨got, ?_, ?_, rfl, ?_, ?_⟩
  · obtain ⟨c, here, count, _⟩ := stays (show .leave 1 ∉ lagging by simp [lagging])
      (by simp [lagging])
    cases here
    exact ⟨_, rfl, rfl, rfl, got ▸ count⟩
  · exact (apart _ _ rfl rfl rfl).1.trans got
  · exact (removed (beat 4)).2.2 0 _ rfl rfl
  · obtain ⟨c, there, ticks, ended⟩ := ends [.receive 1] _ rfl rfl
      (show Use.leave 1 ∉ _ by simp)
    cases there
    exact ⟨rfl, ended⟩

end TickBroadcaster

end Tickflow
