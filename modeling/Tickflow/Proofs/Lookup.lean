import Tickflow.Proofs.Run
/-!
Looking up handlers and ports. Ids tell handlers apart, and names tell the ports of one direction
apart; then whatever is in a table is also what its key finds.
-/
namespace Tickflow

theorem find_of_mem [BEq κ] [LawfulBEq κ] {key : α → κ} {xs : List α} {x : α}
    (distinct : (xs.map key).Nodup) (mem : x ∈ xs) :
    xs.find? (fun y => key y == key x) = some x := by
  induction xs with
  | nil => simp at mem
  | cons y rest ih =>
    rw [List.map_cons, List.nodup_cons] at distinct
    rcases List.mem_cons.mp mem with same | later
    · subst y
      simp
    · have other : key y ≠ key x := fun same =>
        distinct.1 (same ▸ List.mem_map_of_mem later)
      rw [List.find?_cons_of_neg (by simpa using other)]
      exact ih distinct.2 later

theorem key_of_find [BEq κ] [LawfulBEq κ] {key : α → κ} {xs : List α} {k : κ} {x : α}
    (found : xs.find? (fun y => key y == k) = some x) : x ∈ xs ∧ key x = k :=
  ⟨List.mem_of_find?_eq_some found, by simpa using List.find?_some found⟩

theorem find_map_of_key [BEq κ] {key : α → κ} {f : α → α} (keeps : ∀ x, key (f x) = key x)
    (xs : List α) (k : κ) :
    (xs.map f).find? (fun y => key y == k) = (xs.find? (fun y => key y == k)).map f := by
  rw [List.find?_map]
  congr 2
  funext x
  simp [keeps]

theorem mem_of_map_eq {f : α → β} {g : γ → β} {xs : List α} {ys : List γ}
    (same : xs.map f = ys.map g) {x : α} (mem : x ∈ xs) : ∃ y ∈ ys, g y = f x := by
  have image : f x ∈ ys.map g := same ▸ List.mem_map_of_mem mem
  simpa using image

namespace HandlerPorts

structure Distinct (ports : HandlerPorts) : Prop where
  inputs : (ports.inputs.map (·.name)).Nodup
  outputs : (ports.outputs.map (·.name)).Nodup

theorem input_of_mem {ports : HandlerPorts} (distinct : ports.Distinct) {p : InputPort}
    (mem : p ∈ ports.inputs) : ports.input? p.name = some p :=
  find_of_mem distinct.inputs mem

theorem output_of_mem {ports : HandlerPorts} (distinct : ports.Distinct) {q : OutputPort}
    (mem : q ∈ ports.outputs) : ports.output? q.name = some q :=
  find_of_mem distinct.outputs mem

end HandlerPorts

namespace Engine

structure Distinct (e : Engine) : Prop where
  ids : e.ids.Nodup
  ports : ∀ h ∈ e.handlers, h.ports.Distinct

def input? (a : PortAddress) (e : Engine) : Option InputPort :=
  (e.handler? a.handler).bind (·.ports.input? a.port)

def output? (a : PortAddress) (e : Engine) : Option OutputPort :=
  (e.handler? a.handler).bind (·.ports.output? a.port)

theorem mem_of_handler {e : Engine} {id : HandlerId} {h : Handler}
    (found : e.handler? id = some h) : h ∈ e.handlers ∧ h.id = id :=
  key_of_find found

theorem handler_of_mem {e : Engine} (distinct : e.ids.Nodup) {h : Handler}
    (mem : h ∈ e.handlers) : e.handler? h.id = some h :=
  find_of_mem distinct mem

theorem handler_none_iff {e : Engine} {id : HandlerId} : e.handler? id = none ↔ id ∉ e.ids := by
  simp only [handler?, ids, List.find?_eq_none, List.mem_map, not_exists, not_and, beq_iff_eq]

theorem handler_of_id_mem {e : Engine} {id : HandlerId} (mem : id ∈ e.ids) :
    ∃ h ∈ e.handlers, h.id = id ∧ e.handler? id = some h := by
  cases found : e.handler? id with
  | none => exact absurd mem (handler_none_iff.mp found)
  | some h =>
    have at_id := mem_of_handler found
    exact ⟨h, at_id.1, at_id.2, rfl⟩

theorem handler_unique {e : Engine} (distinct : e.ids.Nodup) {g h : Handler}
    (mg : g ∈ e.handlers) (mh : h ∈ e.handlers) (same : g.id = h.id) : g = h := by
  have left := handler_of_mem distinct mg
  have right := handler_of_mem distinct mh
  rw [same] at left
  exact Option.some.inj (left.symm.trans right)

theorem find_handler_map {f : Handler → Handler} (keeps : ∀ h, (f h).id = h.id)
    (hs : List Handler) (id : HandlerId) :
    (hs.map f).find? (·.id == id) = (hs.find? (·.id == id)).map f :=
  find_map_of_key keeps hs id

def changed (id : HandlerId) (f : Handler → Handler) (h : Handler) : Handler :=
  if h.id = id then f h else h

@[simp] theorem handlers_modify (id : HandlerId) (f : Handler → Handler) (e : Engine) :
    (e.modify id f).handlers = e.handlers.map (changed id f) := rfl

theorem changed_id {f : Handler → Handler} (keeps : ∀ h, (f h).id = h.id) (id : HandlerId)
    (h : Handler) : (changed id f h).id = h.id := by
  unfold changed
  split
  · exact keeps h
  · rfl

theorem map_modify {f : Handler → Handler} {g : Handler → α} {id : HandlerId} {e : Engine}
    (keeps : ∀ h ∈ e.handlers, h.id = id → g (f h) = g h) :
    (e.modify id f).handlers.map g = e.handlers.map g := by
  simp only [handlers_modify, List.map_map, List.map_inj_left, Function.comp_apply]
  intro h mem
  unfold changed
  split
  · rename_i at_id
    exact keeps h mem at_id
  · rfl

theorem mem_input {e : Engine} {a : PortAddress} {p : InputPort} (found : e.input? a = some p) :
    ∃ h ∈ e.handlers, h.id = a.handler ∧ p ∈ h.ports.inputs ∧ p.name = a.port := by
  obtain ⟨h, at_id, at_name⟩ := Option.bind_eq_some_iff.mp found
  have handler := mem_of_handler at_id
  have port := key_of_find at_name
  exact ⟨h, handler.1, handler.2, port.1, port.2⟩

theorem mem_output {e : Engine} {a : PortAddress} {q : OutputPort} (found : e.output? a = some q) :
    ∃ h ∈ e.handlers, h.id = a.handler ∧ q ∈ h.ports.outputs ∧ q.name = a.port := by
  obtain ⟨h, at_id, at_name⟩ := Option.bind_eq_some_iff.mp found
  have handler := mem_of_handler at_id
  have port := key_of_find at_name
  exact ⟨h, handler.1, handler.2, port.1, port.2⟩

theorem input_of_mem {e : Engine} (distinct : e.Distinct) {h : Handler} (mh : h ∈ e.handlers)
    {p : InputPort} (mp : p ∈ h.ports.inputs) : e.input? ⟨h.id, p.name⟩ = some p := by
  simp only [input?, handler_of_mem distinct.ids mh, Option.bind_some]
  exact HandlerPorts.input_of_mem (distinct.ports h mh) mp

theorem output_of_mem {e : Engine} (distinct : e.Distinct) {h : Handler} (mh : h ∈ e.handlers)
    {q : OutputPort} (mq : q ∈ h.ports.outputs) : e.output? ⟨h.id, q.name⟩ = some q := by
  simp only [output?, handler_of_mem distinct.ids mh, Option.bind_some]
  exact HandlerPorts.output_of_mem (distinct.ports h mh) mq

end Engine

end Tickflow
