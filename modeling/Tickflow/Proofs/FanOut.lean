import Tickflow.Proofs.Contents
import Tickflow.Proofs.Uses
/-!
An output that leads to several cells. A message is taken or refused before any cell sees it, and once it
is taken every cell fares as if it were the only one: what one reader leaves standing in its cell makes
no difference to another. A cell that is attached more than once is written once for each time.
-/
namespace Tickflow

def Slots.untimed : Slots α → Slots α
  | .latest current shadow currentRead =>
    .latest (current.map ({ · with writtenAt := 0 })) (shadow.map ({ · with writtenAt := 0 }))
      currentRead
  | .ordered capacity queue => .ordered capacity (queue.map ({ · with writtenAt := 0 }))

namespace Cell

def untimed (c : Cell α) : Cell α := { c with slots := c.slots.untimed }

theorem write_untimed (start : Nat) (value : α) (c : Cell α) :
    (c.write start value).2.untimed = (c.untimed.write 0 value).2 := by
  obtain ⟨label, slots, closed, stats⟩ := c
  cases closed with
  | true => rfl
  | false =>
    cases slots with
    | latest current shadow currentRead =>
      cases current <;> rfl
    | ordered capacity queue =>
      by_cases room : queue.length < capacity
      · simp [write, untimed, Slots.untimed, room]
      · simp [write, untimed, Slots.untimed, room]

theorem write_result (start : Nat) (value : α) (c : Cell α) :
    (c.write start value).1 = .ok () ∨ (c.write start value).1 = .error (.bufferFull c.label) := by
  cases closed : c.closed with
  | true => exact .inl (congrArg Prod.fst (write_closed closed start value))
  | false =>
    rcases write_open closed start value with ⟨ok, _⟩ | ⟨error, _⟩
    · exact .inl ok
    · exact .inr error

def Use.copies (count : Nat) (start : Nat) (value : α) : List (Use α) :=
  List.replicate count (.write ⟨value, start⟩)

theorem copies_answers (count start : Nat) (value : α) (c : Cell α) (more : List (Use α)) :
    c.answers (Use.copies count start value ++ more) =
      (c.useAll (Use.copies count start value)).answers more := by
  rw [answers_append]
  have silent : c.answers (Use.copies count start value) = [] := by
    induction count generalizing c with
    | zero => rfl
    | succ count ih => exact ih (c.use _)
  rw [silent, List.nil_append]

theorem copies_untimed (count start : Nat) (value : α) (c : Cell α) :
    (c.useAll (Use.copies count start value)).untimed =
      c.untimed.useAll (Use.copies count 0 value) := by
  induction count generalizing c with
  | zero => rfl
  | succ count ih =>
    refine (ih _).trans ?_
    exact congrArg (·.useAll (Use.copies count 0 value)) (write_untimed start value c)

end Cell

namespace OutputPort

open Cell

section
variable (start : Nat) (m : Message)

theorem deliver_cons (id : CellId) (ids : List CellId) (store : CellStore) :
    deliver start m (id :: ids) store =
      ((match (deliver start m [id] store).1 with
        | .ok () => (deliver start m ids (deliver start m [id] store).2).1
        | .error fault => .error fault),
        (deliver start m ids (deliver start m [id] store).2).2) := by
  simp only [deliver]
  split
  · rfl
  · rename_i c here
    cases (c.write start m).1 <;> rfl

theorem deliver_cell (ids : List CellId) (store : CellStore) (n : CellId) :
    (deliver start m ids store).2[n]? =
      store[n]?.map (·.useAll (Use.copies (ids.count n) start m)) := by
  induction ids generalizing store with
  | nil => exact Option.map_id'.symm
  | cons id rest ih =>
    rw [deliver]
    cases here : store[id]? with
    | none =>
      rw [ih]
      by_cases same : id = n
      · subst id
        rw [here]
        rfl
      · rw [List.count_cons_of_ne same]
    | some c =>
      rw [ih]
      by_cases same : id = n
      · subst id
        have bound := (List.getElem?_eq_some_iff.mp here).1
        rw [List.count_cons_self, List.getElem?_set_self bound, here]
        rfl
      · rw [List.count_cons_of_ne same, List.getElem?_set_ne same]

/-- The cell at one place among those attached, as the message finds it: it was written before if it
is attached at an earlier place too. -/
def faced (ids : List CellId) (store : CellStore) (i : Nat) : Option (Cell Message) :=
  ids[i]?.bind fun n => store[n]?.map (·.useAll (Use.copies ((ids.take i).count n) start m))

def rejects (c : Cell Message) : Bool := !(c.write start m).1.isOk

theorem faced_succ (id : CellId) (ids : List CellId) (store : CellStore) (i : Nat) :
    faced start m (id :: ids) store (i + 1) =
      faced start m ids (deliver start m [id] store).2 i := by
  rw [faced, faced, List.getElem?_cons_succ, List.take_succ_cons]
  refine congrArg (Option.bind ids[i]?) (funext fun n => ?_)
  have both : Use.copies ((id :: ids.take i).count n) start m =
      Use.copies ([id].count n) start m ++ Use.copies ((ids.take i).count n) start m := by
    rw [Use.copies, ← List.singleton_append, List.count_append, List.replicate_add]
    rfl
  rw [deliver_cell, Option.map_map, both]
  exact congrArg (store[n]?.map ·) (funext fun c => useAll_append c _ _)

theorem deliver_result (ids : List CellId) (store : CellStore) :
    (deliver start m ids store).1 =
      match ((List.range ids.length).filterMap (faced start m ids store)).find?
          (rejects start m) with
      | none => .ok ()
      | some c => .error (.bufferFull c.label) := by
  induction ids generalizing store with
  | nil => rfl
  | cons id rest ih =>
    have later : (List.range rest.length).filterMap
          (faced start m rest (deliver start m [id] store).2) =
        (List.range rest.length).filterMap (faced start m (id :: rest) store ∘ Nat.succ) :=
      List.filterMap_congr fun i _ => (faced_succ start m id rest store i).symm
    rw [deliver_cons, ih, later, List.length_cons, List.range_succ_eq_map, List.filterMap_cons,
      List.filterMap_map]
    have first : faced start m (id :: rest) store 0 = store[id]? := Option.map_id'
    rw [first, deliver]
    cases here : store[id]? with
    | none => rfl
    | some c =>
      rcases write_result start m c with ok | error
      · have passed : rejects start m c = false := by rw [rejects, ok]; rfl
        simp only [List.find?_cons, passed, ok, deliver]
      · have stopped : rejects start m c = true := by rw [rejects, error]; rfl
        simp only [List.find?_cons, stopped, error]

end

def Takes (p : OutputPort) (m : Message) : Prop :=
  m.kind = p.spec.kind ∧ p.spec.capabilities.intersects m.location.capability = true

instance (p : OutputPort) (m : Message) : Decidable (p.Takes m) :=
  inferInstanceAs (Decidable (_ ∧ _))

section
variable {p : OutputPort} {m : Message}

theorem check_taken (takes : p.Takes m) : p.check m = .ok () := by
  rw [check, if_neg (not_not_intro takes.1), takes.2]
  rfl

theorem check_kind (other : m.kind ≠ p.spec.kind) : p.check m =
    .error (.kindMismatch s!"message #{m.sequence}" m.kind p.address p.spec.kind) :=
  if_pos other

theorem check_location (same : m.kind = p.spec.kind)
    (elsewhere : p.spec.capabilities.intersects m.location.capability = false) :
    p.check m = .error (.locationMismatch p.address m.location) := by
  rw [check, if_neg (not_not_intro same), elsewhere]
  rfl

theorem write_refused {fault : Fault} (refused : p.check m = .error fault) (start : Nat)
    (store : CellStore) : p.write start m store = (.error fault, p, store) := by
  rw [write, refused]

theorem write_taken (takes : p.Takes m) (start : Nat) (store : CellStore) :
    p.write start m store =
      ((deliver start (m.withSequence p.nextSequence) p.cells store).1,
        { p with nextSequence := p.nextSequence + 1 },
        (deliver start (m.withSequence p.nextSequence) p.cells store).2) := by
  rw [write, check_taken takes]

end

def alone (p : OutputPort) (start : Nat) (m : Message) (n : CellId) (c : Cell Message) :
    Cell Message :=
  c.useAll (Use.copies (p.cells.count n) start (m.withSequence p.nextSequence))

/-- One write: all or nothing up to the cells, and then each cell as if it were the only one. -/
structure WritesApart (p : OutputPort) (store : CellStore) (start : Nat) (m : Message) : Prop where
  wrongKind : m.kind ≠ p.spec.kind → p.write start m store =
    (.error (.kindMismatch s!"message #{m.sequence}" m.kind p.address p.spec.kind), p, store)
  wrongLocation : m.kind = p.spec.kind →
    p.spec.capabilities.intersects m.location.capability = false →
    p.write start m store = (.error (.locationMismatch p.address m.location), p, store)
  numbered : p.Takes m →
    (p.write start m store).2.1 = { p with nextSequence := p.nextSequence + 1 }
  apart : p.Takes m → ∀ n,
    (p.write start m store).2.2[n]? = store[n]?.map (p.alone start m n)
  timeless : p.Takes m → ∀ n instant, (p.write start m store).2.2[n]?.map Cell.untimed =
    store[n]?.map fun c => (p.alone instant m n c).untimed
  result : p.Takes m → (p.write start m store).1 =
    match ((List.range p.cells.length).filterMap
        (faced start (m.withSequence p.nextSequence) p.cells store)).find?
        (rejects start (m.withSequence p.nextSequence)) with
    | none => .ok ()
    | some c => .error (.bufferFull c.label)

theorem writes_apart (p : OutputPort) (store : CellStore) (start : Nat) (m : Message) :
    p.WritesApart store start m := by
  have apart (takes : p.Takes m) (n : CellId) :
      (p.write start m store).2.2[n]? = store[n]?.map (p.alone start m n) := by
    rw [write_taken takes, deliver_cell]
    rfl
  refine ⟨fun other => write_refused (check_kind other) start store,
    fun same elsewhere => write_refused (check_location same elsewhere) start store,
    fun takes => by rw [write_taken takes], apart, ?_, ?_⟩
  · intro takes n instant
    rw [apart takes, Option.map_map]
    refine congrArg (store[n]?.map ·) (funext fun c => ?_)
    exact (copies_untimed _ start _ c).trans (copies_untimed _ instant _ c).symm
  · intro takes
    rw [write_taken takes, deliver_result]

-- A full queue in front does not keep the message from the cell behind it.
example :
    let p : OutputPort := ⟨.output "out" .data, "eye.out", [0, 1], 5⟩
    let m := Message.ofHost .data [7] 0.0
    let store :=
      [Cell.ofSlots (.ordered 1 [⟨m, 2⟩]) "slow", Cell.ofSlots (.latest none none false) "fast"]
    (p.write 3 m store).1 = .error (.bufferFull "slow") ∧ (p.write 3 m store).2.1.nextSequence = 6 ∧
      (p.write 3 m store).2.2.map Cell.length = [1, 1] :=
  ⟨rfl, rfl, rfl⟩

/-- What happens around an output: it is written to, or someone uses one of the cells. -/
inductive Turn where
  | write (start : Nat) (m : Message)
  | use (n : CellId) (u : Use Message)

def Turn.concerns (n : CellId) : Turn → Bool
  | .write _ _ => true
  | .use k _ => k == n

def turn (p : OutputPort) (store : CellStore) : Turn → OutputPort × CellStore
  | .write start m => (p.write start m store).2
  | .use n u => (p, store.modify n (·.use u))

def turns (p : OutputPort) (store : CellStore) : List Turn → OutputPort × CellStore
  | [] => (p, store)
  | t :: rest => turns (p.turn store t).1 (p.turn store t).2 rest

def gotten (n : CellId) (p : OutputPort) (store : CellStore) : List Turn → List (Option Message)
  | [] => []
  | .write start m :: rest =>
    gotten n (p.turn store (.write start m)).1 (p.turn store (.write start m)).2 rest
  | .use k u :: rest =>
    (if k = n then store[n]?.toList.flatMap (·.answer u) else []) ++
      gotten n p (p.turn store (.use k u)).2 rest

def accepted (p : OutputPort) : List Turn → List Message
  | [] => []
  | .write _ m :: rest =>
    if p.Takes m then
      m.withSequence p.nextSequence :: accepted { p with nextSequence := p.nextSequence + 1 } rest
    else accepted p rest
  | .use _ _ :: rest => accepted p rest

def course (n : CellId) (p : OutputPort) : List Turn → List (Use Message)
  | [] => []
  | .write start m :: rest =>
    if p.Takes m then
      Use.copies (p.cells.count n) start (m.withSequence p.nextSequence) ++
        course n { p with nextSequence := p.nextSequence + 1 } rest
    else course n p rest
  | .use k u :: rest => (if k = n then [u] else []) ++ course n p rest

theorem turn_taken {p : OutputPort} {m : Message} (takes : p.Takes m) (start : Nat)
    (store : CellStore) : (p.turn store (.write start m)).1 =
      { p with nextSequence := p.nextSequence + 1 } ∧
    ∀ n, (p.turn store (.write start m)).2[n]? = store[n]?.map (p.alone start m n) :=
  ⟨(writes_apart p store start m).numbered takes, (writes_apart p store start m).apart takes⟩

theorem turn_refused {p : OutputPort} {m : Message} (refuses : ¬ p.Takes m) (start : Nat)
    (store : CellStore) : p.turn store (.write start m) = (p, store) := by
  have apart := writes_apart p store start m
  by_cases same : m.kind = p.spec.kind
  · have elsewhere : p.spec.capabilities.intersects m.location.capability = false :=
      Bool.eq_false_iff.mpr fun declared => refuses ⟨same, declared⟩
    exact congrArg Prod.snd (apart.wrongLocation same elsewhere)
  · exact congrArg Prod.snd (apart.wrongKind same)

theorem turns_cell (n : CellId) (ts : List Turn) (p : OutputPort) (store : CellStore) :
    (p.turns store ts).2[n]? = store[n]?.map (·.useAll (course n p ts)) ∧
      gotten n p store ts = store[n]?.toList.flatMap (·.answers (course n p ts)) := by
  induction ts generalizing p store with
  | nil =>
    refine ⟨Option.map_id'.symm, ?_⟩
    cases store[n]? <;> rfl
  | cons t rest ih =>
    cases t with
    | write start m =>
      obtain ⟨left, told⟩ := ih (p.turn store (.write start m)).1 (p.turn store (.write start m)).2
      rw [turns, gotten, left, told, course]
      by_cases takes : p.Takes m
      · obtain ⟨port, cells⟩ := turn_taken takes start store
        rw [if_pos takes, port, cells]
        cases store[n]? with
        | none => exact ⟨rfl, rfl⟩
        | some c =>
          simp only [Option.map_some, Option.toList_some, List.flatMap_cons, List.flatMap_nil,
            List.append_nil, useAll_append, copies_answers]
          exact ⟨rfl, rfl⟩
      · rw [if_neg takes, turn_refused takes]
        exact ⟨rfl, rfl⟩
    | use k u =>
      obtain ⟨left, told⟩ := ih p (store.modify k (·.use u))
      rw [turns, gotten, turn, left, told, course, List.getElem?_modify]
      by_cases here : k = n
      · cases store[n]? with
        | none => simp
        | some c => simp [here, useAll, answers]
      · cases store[n]? with
        | none => simp [here]
        | some c => simp [here]

theorem turns_numbers (ts : List Turn) (p : OutputPort) (store : CellStore) :
    (accepted p ts).map (·.sequence) = List.range' p.nextSequence (accepted p ts).length ∧
      (p.turns store ts).1.nextSequence = p.nextSequence + (accepted p ts).length := by
  induction ts generalizing p store with
  | nil => exact ⟨rfl, rfl⟩
  | cons t rest ih =>
    cases t with
    | use n u => exact ih p _
    | write start m =>
      rw [turns, accepted]
      by_cases takes : p.Takes m
      · obtain ⟨port, _⟩ := turn_taken takes start store
        obtain ⟨numbers, counter⟩ := ih { p with nextSequence := p.nextSequence + 1 }
          (p.turn store (.write start m)).2
        rw [if_pos takes, port, counter, List.map_cons, numbers, List.length_cons, List.range'_succ]
        exact ⟨rfl, by simp only; omega⟩
      · rw [if_neg takes, turn_refused takes]
        exact ih p store

theorem course_concerning (n : CellId) (ts : List Turn) (p : OutputPort) :
    course n p (ts.filter (Turn.concerns n)) = course n p ts := by
  induction ts generalizing p with
  | nil => rfl
  | cons t rest ih =>
    cases t with
    | write start m =>
      rw [List.filter_cons_of_pos rfl, course, course]
      simp only [ih]
    | use k u =>
      by_cases here : k = n
      · rw [List.filter_cons_of_pos (by simpa [Turn.concerns] using here), course, course, ih]
      · rw [List.filter_cons_of_neg (by simpa [Turn.concerns] using here), course, ih,
          if_neg here, List.nil_append]

theorem course_alike (n : CellId) (ts : List Turn) {p q : OutputPort} (spec : q.spec = p.spec)
    (number : q.nextSequence = p.nextSequence) (count : q.cells.count n = p.cells.count n) :
    course n q ts = course n p ts := by
  induction ts generalizing p q with
  | nil => rfl
  | cons t rest ih =>
    cases t with
    | use k u => rw [course, course, ih spec number count]
    | write start m =>
      have takes : q.Takes m ↔ p.Takes m := by rw [Takes, Takes, spec]
      have taken := ih (p := { p with nextSequence := p.nextSequence + 1 })
        (q := { q with nextSequence := q.nextSequence + 1 }) spec (congrArg (· + 1) number) count
      rw [course, course, taken, ih spec number count, number, count]
      exact if_congr takes rfl rfl

theorem course_offered {n : CellId} {ts : List Turn} {p : OutputPort}
    (once : p.cells.count n = 1) (only : ∀ u, .use n u ∈ ts → u.isWrite = false) :
    ((course n p ts).filterMap Use.entry?).map (·.value) = accepted p ts := by
  induction ts generalizing p with
  | nil => rfl
  | cons t rest ih =>
    have only' : ∀ u, .use n u ∈ rest → u.isWrite = false :=
      fun u mem => only u (List.mem_cons_of_mem t mem)
    cases t with
    | write start m =>
      rw [course, accepted]
      split
      · rw [once, List.filterMap_append, List.map_append,
          ih (p := { p with nextSequence := p.nextSequence + 1 }) once only']
        rfl
      · exact ih once only'
    | use k u =>
      rw [course, accepted, List.filterMap_append, List.map_append, ih once only']
      by_cases here : k = n
      · subst k
        have silent := only u List.mem_cons_self
        cases u with
        | write e => cases silent
        | read | clear | close => simp [Use.entry?]
      · rw [if_neg here]
        rfl

/-- Any number of writes, with the cells used in between: the port counts what it takes, and no cell can
tell what happens to another. -/
structure TurnsApart (p : OutputPort) (store : CellStore) (ts : List Turn) : Prop where
  numbers : (accepted p ts).map (·.sequence) = List.range' p.nextSequence (accepted p ts).length
  counter : (p.turns store ts).1.nextSequence = p.nextSequence + (accepted p ts).length
  offered : ∀ n, p.cells.count n = 1 → (∀ u, .use n u ∈ ts → u.isWrite = false) →
    ((course n p ts).filterMap Use.entry?).map (·.value) = accepted p ts
  cells : ∀ n, (p.turns store ts).2[n]? =
    store[n]?.map fun c : Cell Message => c.useAll (course n p ts)
  reads : ∀ n, gotten n p store ts =
    store[n]?.toList.flatMap fun c : Cell Message => c.answers (course n p ts)
  independent : ∀ n (q : OutputPort) (other : CellStore) (us : List Turn),
    q.spec = p.spec → q.nextSequence = p.nextSequence → q.cells.count n = p.cells.count n →
    other[n]? = store[n]? → us.filter (Turn.concerns n) = ts.filter (Turn.concerns n) →
    (q.turns other us).2[n]? = (p.turns store ts).2[n]? ∧
      gotten n q other us = gotten n p store ts

theorem turns_apart (p : OutputPort) (store : CellStore) (ts : List Turn) :
    p.TurnsApart store ts := by
  obtain ⟨numbers, counter⟩ := turns_numbers ts p store
  refine ⟨numbers, counter, fun n => course_offered, fun n => (turns_cell n ts p store).1,
    fun n => (turns_cell n ts p store).2, ?_⟩
  intro n q other us spec number count cell concerns
  have same : course n q us = course n p ts := by
    rw [← course_concerning n us, concerns, course_concerning, course_alike n ts spec number count]
  obtain ⟨left, told⟩ := turns_cell n us q other
  obtain ⟨left', told'⟩ := turns_cell n ts p store
  rw [left, told, left', told', same, cell]
  exact ⟨rfl, rfl⟩

/-- An output hands on all or nothing, and its cells fare apart from one another. -/
theorem output_fans_out (p : OutputPort) (store : CellStore) :
    (∀ start m, p.WritesApart store start m) ∧ ∀ ts, p.TurnsApart store ts :=
  ⟨writes_apart p store, turns_apart p store⟩

end OutputPort

end Tickflow
