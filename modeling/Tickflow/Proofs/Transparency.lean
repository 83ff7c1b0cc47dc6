import Mathlib.Data.List.Sort
import Tickflow.Proofs.Bridging
import Tickflow.Proofs.Turns
/-!
A bridged connection is transparent. What leaves the adapter is what came to it, in the same order and
with nothing twice, in the memory that the consumer asks for; and what it does not pass on is still
queued before it, or was refused after it.
-/
namespace Tickflow

theorem Message.sublist_of_numbers {xs ys : List Message}
    (rising : (Message.numbers xs).Pairwise (· < ·))
    (rising' : (Message.numbers ys).Pairwise (· < ·)) (sub : xs ⊆ ys) : xs.Sublist ys := by
  let before (x y : Message) : Prop := x.sequence < y.sequence
  have : Std.Antisymm before := ⟨fun x y first second => absurd first (Nat.lt_asymm second)⟩
  have : Std.Irrefl before := ⟨fun x => Nat.lt_irrefl x.sequence⟩
  have sorted : xs.Pairwise before := List.pairwise_map.mp rising
  exact List.sublist_of_subperm_of_pairwise (List.subperm_of_subset sorted.nodup sub) sorted
    (List.pairwise_map.mp rising')

namespace Flow

open Engine

variable {f : Flow} {s t : List Event} {c : Connection} {a : HandlerId} {r : Route} {k : Hand}
  {l : Link} {p : Place} {ends : List (Option Failure)}

theorem Relayed.took_in_order (run : Relayed c a r t f k) (sorted : (frames t).Pairwise (· < ·))
    (ml : l ∈ c.links) (enters : l.target = a.inlet) :
    k.got.Sublist ((stored l.cell t).map (·.value)) := by
  have collected := run.collected sorted ml enters
  have here := run.stands.2 l ml
  obtain ⟨first, ledger⟩ := traced_ledger run.traced here
  apply Message.sublist_of_numbers collected.rising.rising
  · have rise := ledger.stored_numbers_rise
    rw [Message.numbers, List.map_map]
    exact rise
  · intro x mem
    obtain ⟨n, look, read⟩ := mem_causalReads (collected.read x mem)
    obtain ⟨l', ml', target, rfl, e, me, value⟩ := traced_found run.traced read
    obtain rfl := run.wired.target_unique ml' here target
    exact List.mem_map.mpr ⟨e, me, value⟩

theorem pending_single (l : Link) (f : Flow) : (f.pending l).length ≤ 1 := by
  unfold pending
  split
  · exact Nat.zero_le 1
  · split
    · exact Nat.le_refl 1
    · exact Nat.zero_le 1

theorem Relayed.forwarded (run : Relayed c a r t f k) (ml : l ∈ c.links)
    (leaves : l.source = a.outlet) : ∃ forwarded underway, k.got = forwarded ++ underway ∧
      List.Forall₂ (r.Carries f.devicePool) forwarded ((outcomes l.cell t).map (·.1.value)) ∧
      underway.length = (f.pending l).length + k.held.toList.length := by
  have forwards := run.forwards ml leaves
  have count := forwards.length_eq
  let n := ((outcomes l.cell t).map (·.1.value)).length
  refine ⟨k.passed.take n, k.passed.drop n ++ k.held.toList, ?_, ?_, ?_⟩
  · rw [← List.append_assoc, List.take_append_drop]
    rfl
  · exact List.forall₂_take_append _ _ _ forwards
  · rw [sent, List.length_append] at count
    rw [List.length_append, List.length_drop]
    omega

theorem Stance.single {kind : PayloadKind} {pool : Nat}
    (stance : Stance kind r pool (f.desk a) k p) (leaves : l.source = a.outlet) :
    let underway := (f.pending l).length + k.held.toList.length
    underway ≤ 1 ∧ (p = .between → underway = 0) := by
  intro underway
  have free (none : (f.desk a).parcels Route.outputPort = none) : f.pending l = [] :=
    pending_free (leaves ▸ none)
  have clear (clear : (f.desk a).Clear k) : underway = 0 := by
    simp [underway, free clear.free, clear.empty]
  have holds {m : Message} (holds : (f.desk a).Holds kind k m) : underway = 1 := by
    simp [underway, free holds.free, holds.held]
  cases stance with
  | between c | looking _ c | reading _ _ c | again _ _ c | ended _ _ c =>
    exact ⟨(Nat.le_of_eq (clear c)).trans (Nat.zero_le 1), fun _ => clear c⟩
  | took _ _ h | noting _ _ h | moving _ _ h | filling _ _ _ h | giving _ _ h =>
    exact ⟨Nat.le_of_eq (holds h), fun at_rest => nomatch at_rest⟩
  | writing _ _ empty =>
    refine ⟨?_, fun at_rest => nomatch at_rest⟩
    simp [underway, empty, pending_single]

theorem Relayed.delivers (run : Relayed c a r t f k) (ml : l ∈ c.links)
    (leaves : l.source = a.outlet) : ∃ p, f.engine.input? c.target = some p ∧
      ∀ o ∈ outcomes l.cell t, p.spec.Declares o.1.value ∧
        (o.2 = .ok () ∨ ∃ label, o.2 = .error (.bufferFull label)) := by
  obtain ⟨bridges, stands⟩ := run.stands
  obtain ⟨p, target, kind, memory⟩ := bridges.target
  obtain ⟨q, output, spec⟩ := bridges.output
  obtain ⟨_, _, cell, here⟩ := run.wired.link_carried (stands l ml)
  refine ⟨p, target, fun o mem => ⟨?_, ?_⟩⟩
  · obtain ⟨q', found, declared⟩ := traced_declared run.traced (stands l ml) o.1.value
      (List.mem_append_left _ (List.mem_map_of_mem mem))
    rw [leaves, output] at found
    cases found
    rw [spec] at declared
    exact ⟨declared.1.trans kind.symm, memory ▸ declared.2⟩
  · exact ((traced_holds run.traced here).results o mem).imp_right fun full => ⟨cell.label, full⟩

theorem Relayed.queued (run : Relayed c a r t f k) (sorted : (frames t).Pairwise (· < ·))
    (ml : l ∈ c.links) (enters : l.target = a.inlet) {cell : Cell Message}
    (here : f.engine.cells[l.cell]? = some cell) (isOpen : cell.closed = false) {capacity : Nat}
    {queue : List (Entry Message)} (ordered : cell.slots = .ordered capacity queue) :
    (stored l.cell t).map (·.value) = k.got ++ queue.map (·.value) := by
  have filled := (traced_holds run.traced here).filled isOpen
  rw [ordered] at filled
  obtain ⟨gone, parts, values⟩ := filled
  have queues : cell.policy ≠ .latestWins := by
    intro latest
    rw [Cell.policy, ordered] at latest
    cases latest
  rw [parts, List.map_append, values, (run.collected sorted ml enters).all cell here queues]

theorem Relayed.destination (run : Relayed c a r t f k) :
    (r = .hostToDevice ∧ r.destination f.devicePool = .device f.devicePool) ∨
      (r = .deviceToHost ∧ r.destination f.devicePool = .host) := by
  rcases Route.known_cases run.stands.1.known with rfl | rfl
  · exact .inl ⟨rfl, rfl⟩
  · exact .inr ⟨rfl, rfl⟩

/-- A connection with an adapter between its two links, which have the cells `m` and `n`. The messages
`forwarded` went through, those `underway` are with the adapter, which is at the place `p`. -/
structure Transparent (c : Connection) (a : HandlerId) (r : Route) (t : List Event) (f : Flow)
    (p : Place) (m n : CellId) (forwarded underway : List Message) : Prop where
  links : c.links = [⟨c.source, a.inlet, m⟩, ⟨a.outlet, c.target, n⟩]
  /-- They come as they were stored, and none comes twice. -/
  order : (forwarded ++ underway).Sublist ((stored m t).map (·.value))
  carried : List.Forall₂ (r.Carries f.devicePool) forwarded ((outcomes n t).map (·.1.value))
  destination : (r = .hostToDevice ∧ r.destination f.devicePool = .device f.devicePool) ∨
    (r = .deviceToHost ∧ r.destination f.devicePool = .host)
  declared : ∃ p, f.engine.input? c.target = some p ∧
    ∀ o ∈ outcomes n t, p.spec.Declares o.1.value
  results : ∀ o ∈ outcomes n t, o.2 = .ok () ∨ ∃ label, o.2 = .error (.bufferFull label)
  single : underway.length ≤ 1
  between : p = .between → underway = []
  /-- An ordered link that was not closed loses nothing but what is counted. -/
  complete : ∀ (cell : Cell Message) (capacity : Nat) (queue : List (Entry Message)),
    f.engine.cells[m]? = some cell → cell.closed = false → cell.slots = .ordered capacity queue →
    (stored m t).map (·.value) = forwarded ++ underway ++ queue.map (·.value)
  counted : ∀ cell : Cell Message, f.engine.cells[n]? = some cell →
    cell.stats.droppedChunks = (refused n t).length

theorem Engaged.transparent (engaged : Engaged c a r t f p)
    (sorted : (frames t).Pairwise (· < ·)) :
    ∃ m n forwarded underway, Transparent c a r t f p m n forwarded underway := by
  obtain ⟨k, run, stance⟩ := engaged
  obtain ⟨_, m, n, links⟩ := run.stands.1.through
  have first : ⟨c.source, a.inlet, m⟩ ∈ c.links := by
    rw [links]
    exact List.mem_cons_self
  have second : ⟨a.outlet, c.target, n⟩ ∈ c.links := by
    rw [links]
    exact List.mem_cons_of_mem _ List.mem_cons_self
  obtain ⟨forwarded, underway, parts, carried, count⟩ := run.forwarded second rfl
  obtain ⟨p, found, delivered⟩ := run.delivers second rfl
  have few := stance.single (l := ⟨a.outlet, c.target, n⟩) rfl
  rw [← count] at few
  exact ⟨m, n, forwarded, underway,
    { links
      order := parts ▸ run.took_in_order sorted first rfl
      carried
      destination := run.destination
      declared := ⟨p, found, fun o mem => (delivered o mem).1⟩
      results := fun o mem => (delivered o mem).2
      single := few.1
      between := fun at_rest => List.length_eq_zero_iff.mp (few.2 at_rest)
      complete := fun _ _ _ here isOpen ordered =>
        parts ▸ run.queued sorted first rfl here isOpen ordered
      counted := fun _ here => (traced_holds run.traced here).dropped }⟩

/-- Once a connection with the adapter `a` is made, `a` works as its script says, call for call and in
fine steps, and others do in between what they like. The second link gets what the first one stored,
changed in nothing but its place, and no call of `a` fails but where a queue is full. What an engine
does is such a shift (`course_shift`), and so is what its owner does (`command_aside`). -/
theorem bridge_transparent {t₀ : List Event} {f₀ f₁ : Flow} (before : Traced t₀ f₀)
    (step : Step f₀ s f₁) (old : c ∉ f₀.engine.connections) (new : c ∈ f₁.engine.connections)
    (adapter : c.adapter = some a) (shift : Shift a f₁ .between t ends f p)
    (sorted : (frames (t₀ ++ s ++ t)).Pairwise (· < ·)) :
    (∃ r m n forwarded underway,
      Transparent c a r (t₀ ++ s ++ t) f p m n forwarded underway) ∧
    ∀ how ∈ ends, Harmless how := by
  obtain ⟨r, opened⟩ := Engaged.opens before step old new adapter
  obtain ⟨engaged, harmless⟩ := opened.shift shift
  exact ⟨⟨r, engaged.transparent sorted⟩, harmless⟩

open Hosted (cameraAndScreen camera screen)

/-! A picture on its way from the camera to the screen. -/

def picture : Message := .ofHost (.video 1 1) [7] 0.0

def upload : HandlerId := .fresh Route.hostToDevice.className cameraAndScreen.engine.ids

def uploading : Connection :=
  ⟨"conn_0", camera, screen, .video, some upload,
    [⟨camera, upload.inlet, 0⟩, ⟨upload.outlet, screen, 1⟩]⟩

def joinedScreen : Flow := atRest (cameraAndScreen.connect camera screen).2

def rolling : Flow := atRest (cameraAndScreen.connect camera screen).2.start.2

def shot : Engine :=
  ((rolling.wrote camera picture).engine.issue 0 0.0 0.0).beginCall upload

theorem bridge_transparent_uploads : ∃ t f r forwarded y,
    Transparent uploading upload r t f .between 0 1 forwarded [] ∧
    y ∈ (outcomes 1 t).map (·.1.value) ∧ y.bytes = [7] ∧ y.location = .device 0 := by
  have both : Traced [] (atRest cameraAndScreen) :=
    added_traced (added_traced bare_traced _ _) _ _
  have joins : Step (atRest cameraAndScreen) [] joinedScreen := .command (.connect camera screen)
  have w := step_wired (traced_wired both) joins
  have starts : Aside upload joinedScreen [] rolling := command_aside w .start upload
  -- the call goes on until nothing is left of it
  have carries : ((shot.openCall? upload).bind fun c =>
      ((shot.advance upload c).openCall? upload).bind fun c' =>
        ((shot.advance upload c).advance upload c').cells[1]?.bind fun cell =>
          (cell.read none).1.map fun m => (m.bytes, m.location)) = some ([7], .device 0) := by
    decide +kernel
  obtain ⟨call, current, carries⟩ := Option.bind_eq_some_iff.mp carries
  obtain ⟨call', current', carries⟩ := Option.bind_eq_some_iff.mp carries
  obtain ⟨cell, here, carries⟩ := Option.bind_eq_some_iff.mp carries
  obtain ⟨y, got, parts⟩ := Option.map_eq_some_iff.mp carries
  have idle : ((((rolling.wrote camera picture).engine.issue 0 0.0 0.0).handler? upload).bind
      (·.call)) = none := Option.isNone_iff_eq_none.mp (by decide +kernel)
  obtain ⟨deeds, course, spares, ticked⟩ : ∃ deeds,
      Course rolling.engine deeds ((shot.advance upload call).advance upload call') ∧
      (∀ d ∈ deeds, d.spares upload = true) ∧ (ticks deeds).length = 1 := by
    refine ⟨_, ((((Course.single (.write camera.handler camera.port picture)).tail
      (.issue 0 0.0 0.0 (by decide +kernel))).tail (.begin upload idle)).tail
      (.advance upload call current)).tail (.advance upload call' current'), ?_, rfl⟩
    have other : camera.handler ≠ upload := by decide +kernel
    intro d mem
    simp only [List.mem_append, List.mem_singleton] at mem
    rcases mem with (((rfl | rfl) | rfl) | rfl) | rfl
    · exact decide_eq_true other
    all_goals rfl
  obtain ⟨t, looks, shift, told⟩ := course_shift (step_wired w starts.step) (fun _ => rfl) course
    spares
  have sorted : (frames ([] ++ [] ++ ([] ++ t))).Pairwise (· < ·) := by
    obtain ⟨tick, one⟩ := List.length_eq_one_iff.mp ticked
    simp only [List.nil_append, frames, told, one]
    exact List.pairwise_singleton _ _
  obtain ⟨⟨r, m, n, forwarded, underway, passed⟩, _⟩ := bridge_transparent (c := uploading) both joins
    (by decide +kernel) (by decide +kernel) rfl ((Shift.refl.aside starts).trans shift) sorted
  obtain ⟨rfl, rfl⟩ : 0 = m ∧ 1 = n := by simpa [uploading] using passed.links
  obtain rfl := passed.between rfl
  have run := (both.next joins).append
    ((Run.single starts.step).trans (shift.run (step_wired w starts.step)))
  obtain ⟨e, stored, rfl, _⟩ := (traced_holds run here).found got
  obtain ⟨o, mem, rfl⟩ := List.mem_map.mp stored
  obtain ⟨bytes, location⟩ := Prod.mk.inj parts
  exact ⟨_, _, r, forwarded, _, passed,
    List.mem_map.mpr ⟨o, List.mem_of_mem_filter mem, rfl⟩, bytes, location⟩

end Flow

end Tickflow
