import Tickflow.Proofs.Aftermath
import Tickflow.Proofs.Starting
/-!
What a start that isolates failures leads to, and what stays so afterwards: the links into the
handlers that were lost are dead for the rest of the run, all others stay open.
-/
namespace Tickflow

theorem sublist_filter [DecidableEq α] {xs ys : List α} (sub : xs.Sublist ys)
    (distinct : ys.Nodup) : xs = ys.filter (· ∈ xs) := by
  have all : xs.filter (· ∈ xs) = xs := List.filter_eq_self.mpr fun x mem => by simpa using mem
  have within := sub.filter (fun x => decide (x ∈ xs))
  rw [all] at within
  refine within.eq_of_length_le ((distinct.filter _).length_le_of_subset fun x mem => ?_)
  simpa using (List.mem_filter.mp mem).2

namespace Engine

def Linked (e : Engine) (x y : HandlerId) : Prop :=
  ∃ l ∈ e.links, l.source.handler = x ∧ l.target.handler = y

/-- One of the handlers `fs` fails to start, and links lead from it to `x`, or it is `x`. -/
def LostFrom (fs : List Handler) (e : Engine) (x : HandlerId) : Prop :=
  ∃ f ∈ fs, f.behaviour.onStart ≠ none ∧ Relation.ReflTransGen e.Linked f.id x

abbrev Lost (e : Engine) (x : HandlerId) : Prop := e.LostFrom e.handlers x

theorem Wired.linked {e : Engine} (w : e.Wired) : e.Linked = e.graph.Edge := by
  funext x y
  exact propext w.edge_iff.symm

theorem lost_iff_cut {e : Engine} (w : e.Wired) {fs : List Handler} (sub : ∀ f ∈ fs, f ∈ e.handlers)
    {x : HandlerId} : e.LostFrom fs x ↔ e.Cut (fs.map (·.id)) x := by
  unfold LostFrom Cut
  rw [w.linked]
  constructor
  · rintro ⟨f, mem, fails, path⟩
    have found := handler_of_mem w.distinct.ids (sub f mem)
    exact ⟨f.id, List.mem_map_of_mem mem, ⟨f, found, fails⟩, path⟩
  · rintro ⟨_, among, ⟨g, found, fails⟩, path⟩
    obtain ⟨f, mem, rfl⟩ := List.mem_map.mp among
    rw [handler_of_mem w.distinct.ids (sub f mem)] at found
    have same : f = g := Option.some.inj found
    exact ⟨f, mem, same ▸ fails, path⟩

theorem lost_known {e : Engine} (w : e.Wired) {x : HandlerId} (lost : e.Lost x) : x ∈ e.ids := by
  obtain ⟨f, mem, _, path⟩ := lost
  cases path with
  | refl => exact List.mem_map_of_mem mem
  | tail _ link =>
    obtain ⟨l, ml, _, rfl⟩ := link
    exact (w.attached.ends l ml).2

theorem tried_iff {e : Engine} (w : e.Wired) {before after : List Handler} {x : Handler}
    (parts : e.handlers = before ++ x :: after) :
    e.Tried e.ids x.id ↔ ¬ e.LostFrom before x.id := by
  have ids : e.ids = before.map (·.id) ++ x.id :: after.map (·.id) := by
    rw [Engine.ids, parts]
    simp
  have distinct := w.distinct.ids
  rw [ids, List.nodup_append, List.nodup_cons] at distinct
  have early : x.id ∉ before.map (·.id) := fun mem =>
    distinct.2.2 x.id mem x.id List.mem_cons_self rfl
  rw [lost_iff_cut w fun f mem => by simp [parts, mem]]
  constructor
  · rintro ⟨before', after', parts', uncut⟩
    have same := (List.append_cons_inj_of_notMem early distinct.2.1.1).mp (ids.symm.trans parts')
    rw [same.1]
    exact uncut
  · intro uncut
    exact ⟨_, _, ids, uncut⟩

theorem Wired.mem_feeding {e : Engine} (w : e.Wired) {x : HandlerId} {n : CellId} :
    n ∈ e.feeding x ↔ ∃ l ∈ e.links, l.target.handler = x ∧ l.cell = n := by
  constructor
  · intro mem
    cases found : e.handler? x with
    | none => simp [feeding, found] at mem
    | some h =>
      obtain ⟨mh, at_x⟩ := mem_of_handler found
      simp only [feeding, found, Option.map_some, Option.getD_some, List.mem_filterMap] at mem
      obtain ⟨p, mp, cell⟩ := mem
      obtain ⟨l, ml, target, same⟩ := w.input_link (input_of_mem w.distinct mh mp) cell
      exact ⟨l, ml, by rw [target, at_x], same⟩
  · rintro ⟨l, ml, rfl, rfl⟩
    obtain ⟨c, mc, mlc⟩ := List.mem_flatMap.mp ml
    obtain ⟨_, _, carries⟩ := (w.fits c mc).carries
    obtain ⟨_, p, _, _, input, _, _⟩ := carries l mlc
    obtain ⟨h, mh, at_id, mp, name⟩ := mem_input input
    have cells := w.attached.inputs h mh p mp
    rw [at_id, name] at cells
    have mem : l.cell ∈ p.cell.toList := by
      rw [← cells]
      exact List.mem_map_of_mem (List.mem_filter.mpr ⟨ml, by simp⟩)
    have found := handler_of_mem w.distinct.ids mh
    rw [at_id] at found
    simp only [feeding, found, Option.map_some, Option.getD_some, List.mem_filterMap]
    exact ⟨p, mp, Option.mem_toList.mp mem⟩

theorem begun_nothing {e : Engine} (u : e.Untouched) : Begun e [] [] [] e.warned := by
  obtain ⟨notices, same⟩ := e.warned_notices
  have uncut (x : HandlerId) : ¬ e.Cut [] x := by
    rintro ⟨f, mem, _⟩
    cases mem
  have silent (x : HandlerId) : e.warned.callsOf x = [] := by
    rw [same]
    exact u.uncalled x
  refine ⟨e.warned_unstarted, .refl _, ?_, ?_, ?_, ?_, ?_, ?_, ?_, fun x _ => silent x, ?_, ?_, ?_⟩
  · simp
  · simp [uncut]
  · intro h _ cut
    exact absurd cut (uncut h.id)
  · intro _ _ mem
    exact absurd mem List.not_mem_nil
  · intro h mem _ _
    rw [same] at mem
    exact u.created h mem
  · intro n cut
    obtain ⟨x, cut, _⟩ := cut
    exact absurd cut (uncut x)
  · intro n _
    rw [same]
  · intro x tried
    exact absurd (tried_mem tried) List.not_mem_nil
  · intro x mem
    exact absurd mem List.not_mem_nil
  · rw [same]

theorem subscribeAll_channels (ids : List HandlerId) (e : Engine) :
    (e.subscribeAll ids).broadcaster.channels =
      e.broadcaster.channels ++ ids.map fun id => .opened id.text := by
  have folded (b : TickBroadcaster) : (ids.foldl (fun b id => b.subscribe id.text) b).channels =
      b.channels ++ ids.map fun id => .opened id.text := by
    induction ids generalizing b with
    | nil => simp
    | cons id rest ih =>
      rw [List.foldl_cons, ih]
      simp [TickBroadcaster.subscribe]
  exact folded e.broadcaster

section
variable {e₀ e : Engine} {started disabled : List HandlerId}
  (b : Begun e₀ e₀.ids started disabled e)
include b

theorem Begun.fate {x : Handler} (mem : x ∈ e.handlers) :
    (e₀.Cut e₀.ids x.id ∧ x.state = .failed ∧ x.id ∉ started) ∨
      (¬ e₀.Cut e₀.ids x.id ∧ x.state = .started ∧ x.id ∈ started) := by
  have known : x.id ∈ e₀.ids := by
    rw [← unstarted_ids b.same]
    exact List.mem_map_of_mem mem
  by_cases cut : e₀.Cut e₀.ids x.id
  · refine .inl ⟨cut, b.failed x mem cut, ?_⟩
    rw [b.started]
    intro both
    exact both.2 cut
  · exact .inr ⟨cut, b.active x mem known cut, (b.started x.id).mpr ⟨known, cut⟩⟩

theorem Begun.active_ids (distinct : e₀.ids.Nodup) : started = e.activeIds := by
  have sub : e.activeIds.Sublist e₀.ids := by
    rw [← unstarted_ids b.same]
    exact List.filter_sublist.map _
  have members (x : HandlerId) : x ∈ started ↔ x ∈ e.activeIds := by
    simp only [activeIds, List.mem_map, List.mem_filter]
    constructor
    · intro mem
      have known : x ∈ e.ids := unstarted_ids b.same ▸ b.order.subset mem
      obtain ⟨h, mh, rfl, _⟩ := handler_of_id_mem known
      rcases b.fate mh with ⟨_, _, never⟩ | ⟨_, state, _⟩
      · exact absurd mem never
      · exact ⟨h, ⟨mh, by simp [state, LifecycleState.isActive]⟩, rfl⟩
    · rintro ⟨h, ⟨mh, active⟩, rfl⟩
      rcases b.fate mh with ⟨_, state, _⟩ | ⟨_, _, was⟩
      · simp [state, LifecycleState.isActive] at active
      · exact was
  rw [sublist_filter b.order distinct, sublist_filter sub distinct]
  exact List.filter_congr fun x _ => by simp [members x]

theorem Begun.dead_cell (w : e₀.Wired) {l : Link} (ml : l ∈ e₀.links)
    (cut : e₀.Cut e₀.ids l.target.handler) :
    ∃ c : Cell Message, e.cells[l.cell]? = some c ∧ c.Dead := by
  obtain ⟨x, mx, mlx⟩ := List.mem_flatMap.mp ml
  obtain ⟨_, _, carries⟩ := (w.fits x mx).carries
  obtain ⟨_, _, c, _, _, found, _⟩ := carries l mlx
  have closed := b.closed l.cell ⟨_, cut, w.mem_feeding.mpr ⟨l, ml, rfl, rfl⟩⟩
  rw [found] at closed
  exact ⟨c.close, closed, Cell.close_dead c⟩

theorem Begun.open_cell (w : e₀.Wired) (u : e₀.Untouched) {l : Link} (ml : l ∈ e₀.links)
    (uncut : ¬ e₀.Cut e₀.ids l.target.handler) :
    ∃ c : Cell Message, e.cells[l.cell]? = some c ∧ c.closed = false := by
  obtain ⟨x, mx, mlx⟩ := List.mem_flatMap.mp ml
  obtain ⟨_, _, carries⟩ := (w.fits x mx).carries
  obtain ⟨_, _, c, _, _, found, _⟩ := carries l mlx
  refine ⟨c, ?_, u.opened c (List.mem_of_getElem? found)⟩
  rw [b.opened l.cell ?_, found]
  rintro ⟨y, cut, feeds⟩
  obtain ⟨k, mk, rfl, cell⟩ := w.mem_feeding.mp feeds
  exact uncut (w.link_unique mk ml cell ▸ cut)

end

end Engine

namespace Hosted

open Engine

theorem start_isolating {within : Engine → Prop} {h : Hosted} (reach : Reachable within h)
    (idle : h.engine.state = .idle) (isolate : h.engine.settings.startPolicy = .isolate) :
    ∃ started disabled e, h.start = (.ok (), h.running started e) ∧
      Begun h.engine h.engine.ids started disabled e := by
  have w := reachable_wired reach
  have u := reachable_untouched reach idle
  obtain ⟨started, disabled, e, went, b⟩ :=
    startEach_begun w u.quiet isolate h.engine.ids [] rfl (begun_nothing u)
  exact ⟨started, disabled, e, start_running idle went, b⟩

/-- What a start that isolates failures leads to, and what stays so in all later steps. -/
structure Isolated (within : Engine → Prop) (h h' : Hosted) : Prop where
  running : h'.engine.state = .running
  wiring : h'.engine.ids = h.engine.ids ∧ h'.engine.links = h.engine.links
  failed : ∀ x ∈ h'.engine.handlers, x.state = .failed ↔ h.engine.Lost x.id
  active : ∀ x ∈ h'.engine.handlers, x.state ≠ .failed → x.state.isActive = true
  subscribed : h'.engine.broadcaster.channels =
    h'.engine.activeIds.map fun id => .opened id.text
  apart : ∀ l ∈ h'.engine.links, ∀ x ∈ h'.engine.handlers, ∀ y ∈ h'.engine.handlers,
    x.id = l.source.handler → y.id = l.target.handler → x.state = .failed → y.state = .failed
  dead : ∀ l ∈ h'.engine.links, h.engine.Lost l.target.handler → ∃ c : Cell Message, c.Dead ∧
    c.length = 0 ∧ c.mustWait = false ∧ (∀ start m, c.write start m = (.ok (), c)) ∧
    ∀ later, Run within h' later → later.engine.cells[l.cell]? = some c
  opened : ∀ l ∈ h'.engine.links, ¬ h.engine.Lost l.target.handler →
    ∀ later, Run within h' later →
      ∃ c : Cell Message, later.engine.cells[l.cell]? = some c ∧ c.closed = false
  skipped : ∀ before x after, h.engine.handlers = before ++ x :: after →
    h.engine.LostFrom before x.id → ∀ later, Run within h' later → later.engine.callsOf x.id = []
  ended : ∀ before x after, h.engine.handlers = before ++ x :: after →
    ¬ h.engine.LostFrom before x.id → h.engine.Lost x.id →
    ∀ later, Run within h' later → later.engine.callsOf x.id = [.start, .stop]
  started : ∀ x ∈ h.engine.handlers, ¬ h.engine.Lost x.id → h'.engine.callsOf x.id = [.start]

theorem begun_isolated {within : Engine → Prop} {h : Hosted} (reach : Reachable within h)
    (idle : h.engine.state = .idle) {started disabled : List HandlerId} {e : Engine}
    (same : h.start.2 = h.running started e) (b : Begun h.engine h.engine.ids started disabled e) :
    Isolated within h (h.running started e) := by
  have w := reachable_wired reach
  have u := reachable_untouched reach idle
  have cut {x : HandlerId} : h.engine.Lost x ↔ h.engine.Cut h.engine.ids x :=
    lost_iff_cut w fun _ mem => mem
  have ids : e.ids = h.engine.ids := unstarted_ids b.same
  have links : (h.running started e).engine.links = h.engine.links := by
    rw [Engine.links, show (h.running started e).engine.connections = h.engine.connections from
      (congrArg Engine.connections b.same :)]
    rfl
  have failed (x : Handler) (mem : x ∈ e.handlers) : x.state = .failed ↔ h.engine.Lost x.id := by
    rw [cut]
    rcases b.fate mem with ⟨reached, state, _⟩ | ⟨away, state, _⟩
    · simp [reached, state]
    · simp [away, state]
  have kept (later : Hosted) (run : Run within (h.running started e) later) :
      Kept (h.running started e) later := by
    refine run_kept ?_ (fun other => by cases other) run
    rw [← same]
    exact .next reach .start
  have out {id : HandlerId} (lost : h.engine.Lost id) :
      (h.running started e).engine.Out id := by
    rintro x mem rfl
    exact ⟨(failed x mem).mpr lost, unstarted_quiet b.same u.quiet x mem⟩
  refine ⟨rfl, ⟨ids, links⟩, failed, ?_, ?_, ?_, ?_, ?_, ?_, ?_, ?_⟩
  · intro x mem other
    rcases b.fate mem with ⟨_, state, _⟩ | ⟨_, state, _⟩
    · exact absurd state other
    · simp [state, LifecycleState.isActive]
  · refine (subscribeAll_channels started e).trans ?_
    rw [b.broadcaster, u.unheard, b.active_ids w.distinct.ids]
    rfl
  · intro l ml x mx y my source target lost
    rw [links] at ml
    obtain ⟨f, mf, fails, path⟩ := (failed x mx).mp lost
    refine (failed y my).mpr ⟨f, mf, fails, path.tail ⟨l, ml, ?_, ?_⟩⟩
    · exact source.symm
    · exact target.symm
  · intro l ml lost
    rw [links] at ml
    obtain ⟨c, found, dead⟩ := b.dead_cell w ml (cut.mp lost)
    exact ⟨c, dead, dead.length, dead.mustWait, fun start m => dead.write start m,
      fun later run => (kept later run).dead l.cell c found dead⟩
  · intro l ml away later run
    rw [links] at ml
    obtain ⟨c, found, opened⟩ := b.open_cell w u ml fun reached => away (cut.mpr reached)
    have closed := congrArg (fun cs => cs[l.cell]?) (kept later run).closed
    simp only [List.getElem?_map] at closed
    rw [show (h.running started e).engine.cells[l.cell]? = some c from found] at closed
    obtain ⟨d, found', same'⟩ := Option.map_eq_some_iff.mp closed
    exact ⟨d, found', same'.trans opened⟩
  · intro before x after split lost later run
    have known : h.engine.Lost x.id := by
      obtain ⟨f, mem, fails, path⟩ := lost
      exact ⟨f, by simp [split, mem], fails, path⟩
    rw [((kept later run).out x.id (out known)).2]
    exact b.untried x.id fun t => (tried_iff w split).mp t lost
  · intro before x after split away lost later run
    rw [((kept later run).out x.id (out lost)).2]
    exact b.stopped x.id ((tried_iff w split).mpr away) (cut.mp lost)
  · intro x mem away
    exact b.kept x.id (List.mem_map_of_mem mem) fun reached => away (cut.mpr reached)

theorem failed_iff_lost {within : Engine → Prop} {h h' : Hosted} (w : h.engine.Wired)
    (i : Isolated within h h') {x : HandlerId} :
    (∃ g ∈ h'.engine.handlers, g.id = x ∧ g.state = .failed) ↔ h.engine.Lost x := by
  constructor
  · rintro ⟨g, mem, rfl, state⟩
    exact (i.failed g mem).mp state
  · intro lost
    have known : x ∈ h'.engine.ids := i.wiring.1 ▸ lost_known w lost
    obtain ⟨g, mem, rfl, _⟩ := handler_of_id_mem known
    exact ⟨g, mem, rfl, (i.failed g mem).mpr lost⟩

/-- A start that isolates failures loses just the handlers that fail to start and those they lead to;
which ones these are does not depend on the order in which handlers and links were added. It is
taken that threads and tick channels can be created for the handlers that are left. -/
theorem isolate_exact {within : Engine → Prop} {h : Hosted} (reach : Reachable within h)
    (idle : h.engine.state = .idle) (isolate : h.engine.settings.startPolicy = .isolate) :
    h.start.1 = .ok () ∧ Isolated within h h.start.2 ∧
    ∀ (k : Hosted), Reachable within k → k.engine.state = .idle →
      k.engine.settings.startPolicy = .isolate →
      (∀ x, (∃ f ∈ k.engine.handlers, f.id = x ∧ f.behaviour.onStart ≠ none) ↔
        ∃ f ∈ h.engine.handlers, f.id = x ∧ f.behaviour.onStart ≠ none) →
      (∀ x y, k.engine.Linked x y ↔ h.engine.Linked x y) →
      ∀ x, (∃ g ∈ k.start.2.engine.handlers, g.id = x ∧ g.state = .failed) ↔
        ∃ g ∈ h.start.2.engine.handlers, g.id = x ∧ g.state = .failed := by
  have isolated {k : Hosted} (reach : Reachable within k) (idle : k.engine.state = .idle)
      (isolate : k.engine.settings.startPolicy = .isolate) :
      k.start.1 = .ok () ∧ Isolated within k k.start.2 := by
    obtain ⟨started, disabled, e, same, b⟩ := start_isolating reach idle isolate
    rw [same]
    exact ⟨rfl, begun_isolated reach idle (congrArg Prod.snd same) b⟩
  refine ⟨(isolated reach idle isolate).1, (isolated reach idle isolate).2, ?_⟩
  intro k reach' idle' isolate' fails links x
  have linked : k.engine.Linked = h.engine.Linked := by
    funext x y
    exact propext (links x y)
  rw [failed_iff_lost (reachable_wired reach') (isolated reach' idle' isolate').2,
    failed_iff_lost (reachable_wired reach) (isolated reach idle isolate).2]
  unfold Lost LostFrom
  rw [linked]
  constructor
  · rintro ⟨f, mem, bad, path⟩
    obtain ⟨g, mg, id, worse⟩ := (fails f.id).mp ⟨f, mem, rfl, bad⟩
    exact ⟨g, mg, worse, id ▸ path⟩
  · rintro ⟨f, mem, bad, path⟩
    obtain ⟨g, mg, id, worse⟩ := (fails f.id).mpr ⟨f, mem, rfl, bad⟩
    exact ⟨g, mg, worse, id ▸ path⟩

/-- A wrapper, and after it a camera that breaks off when it is started and the wrapper's source. -/
def brittle : Hosted :=
  (((⟨.blank 0 ({ Settings.default with startPolicy := .isolate }.withFps 30.0) none, none⟩ :
    Hosted).added (some "wrapper") .wrapper).added (some "source")
    { Behaviour.plain "Source" [.output "out" .data] [] with
      onStart := some (.panic "no device") }).connect
    ⟨⟨"source", by decide⟩, "out"⟩ ⟨⟨"wrapper", by decide⟩, "in"⟩ |>.2

theorem brittle_reachable : Reachable Quiet brittle :=
  .next (.next (.next (.fresh (show make 0 { Settings.default with startPolicy := .isolate } 30.0 =
    .ok _ from rfl) none) (.add _ _)) (.add _ _)) (.connect _ _)

theorem isolate_exact_brittle : Reachable Quiet brittle ∧ brittle.engine.state = .idle ∧
    brittle.engine.settings.startPolicy = .isolate ∧ brittle.start.1 = .ok () ∧
    Isolated Quiet brittle brittle.start.2 ∧
    brittle.start.2.engine.handlers.map (·.state) = [.failed, .failed] ∧
    brittle.start.2.engine.callsOf ⟨"wrapper", by decide⟩ = [.start, .stop] := by
  have idle : brittle.engine.state = .idle := by decide +kernel
  have isolate : brittle.engine.settings.startPolicy = .isolate := by decide +kernel
  obtain ⟨ok, isolated, _⟩ := isolate_exact brittle_reachable idle isolate
  exact ⟨brittle_reachable, idle, isolate, ok, isolated, by decide +kernel, by decide +kernel⟩

end Hosted

end Tickflow
