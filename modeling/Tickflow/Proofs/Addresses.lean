import Mathlib.Data.List.Nodup
import Tickflow.Proofs.Spelling
/-!
Written addresses of ports. No handler id has a point in it, so the first point of an address ends
the id, whatever else there is in the name of the port: an address is read as what it was written
for, and no two ports of one direction have one in common.
-/
namespace Tickflow

namespace PortAddress

structure Parted (s front back : String) : Prop where
  whole : s = front ++ "." ++ back
  first : '.' ∉ front.toList

/-- The first thing that is wrong with a text that is no address, with the fault that says so. -/
inductive Unaddressed (s : String) : Fault → Prop where
  | noPoint (absent : '.' ∉ s.toList) : Unaddressed s (.configuration (.addressShape s))
  | noPort {front : String} (parted : Parted s front "") :
      Unaddressed s (.configuration (.addressPort s))
  | badHandler {front back : String} (parted : Parted s front back) (named : back ≠ "")
      (bad : ¬ NamesId front) : Unaddressed s (.configuration (.handlerId front))

variable {s front back : String} {a b : PortAddress} {f : Fault}

/-! Reading. -/

theorem parted_or_pointless (s : String) :
    (∃ front back, Parted s front back) ∨ '.' ∉ s.toList := by
  by_cases mem : '.' ∈ s.toList
  · obtain ⟨front, back, parts, clear⟩ := List.eq_append_cons_of_mem mem
    refine .inl ⟨String.ofList front, String.ofList back, ?_, by simpa using clear⟩
    apply String.toList_inj.mp
    simp [parts]
  · exact .inr mem

theorem Parted.cut (parted : Parted s front back) :
    Text.cut? ['.'] s.toList = some (front.toList, back.toList) := by
  have chars : s.toList = front.toList ++ ['.'] ++ back.toList := by
    rw [parted.whole]
    simp
  rw [chars]
  exact Text.cut_clear parted.first back.toList

theorem Parted.unique {front' back' : String} (parted : Parted s front back)
    (other : Parted s front' back') : front = front' ∧ back = back' := by
  have same := parted.cut.symm.trans other.cut
  simpa [String.toList_inj] using same

theorem Parted.read (parted : Parted s front back) : ofText? s =
    if back = "" then .error (.configuration (.addressPort s))
    else (HandlerId.ofText? front).map (⟨·, back⟩) := by
  unfold ofText?
  rw [parted.cut]
  by_cases nameless : back = ""
  · simp [nameless]
  · obtain ⟨c, rest, chars⟩ := List.exists_cons_of_ne_nil fun nil =>
      nameless (String.toList_eq_nil_iff.mp nil)
    have whole : String.ofList (c :: rest) = back := by rw [← chars, String.ofList_toList]
    rw [chars, if_neg nameless]
    simp only [whole, String.ofList_toList]
    rfl

theorem ofText_pointless (absent : '.' ∉ s.toList) :
    ofText? s = .error (.configuration (.addressShape s)) := by
  have whole : Text.cut? ['.'] s.toList = none := by
    rw [Text.cut_none_iff]
    intro front back parts
    rw [parts] at absent
    simp at absent
  unfold ofText?
  rw [whole]

theorem ofText_badHandler (bad : ¬ NamesId front) :
    HandlerId.ofText? front = .error (.configuration (.handlerId front)) :=
  dif_neg fun valid => bad (isIdText_iff.mp valid)

theorem Unaddressed.refused (unaddressed : Unaddressed s f) : ofText? s = .error f := by
  cases unaddressed with
  | noPoint absent => exact ofText_pointless absent
  | noPort parted => rw [parted.read, if_pos rfl]
  | badHandler parted named bad =>
    rw [parted.read, if_neg named, ofText_badHandler bad]
    rfl

theorem read_of_parted (parted : Parted s a.handler.text a.port) (named : a.port ≠ "") :
    ofText? s = .ok a := by
  rw [parted.read, if_neg named, HandlerId.ofText_text]
  rfl

theorem ofText_cases (s : String) :
    (∃ a, Parted s a.handler.text a.port ∧ a.port ≠ "" ∧ ofText? s = .ok a) ∨
      ∃ f, Unaddressed s f ∧ ofText? s = .error f := by
  rcases parted_or_pointless s with ⟨front, back, parted⟩ | absent
  · by_cases nameless : back = ""
    · subst nameless
      exact .inr ⟨_, .noPort parted, (Unaddressed.noPort parted).refused⟩
    · by_cases names : NamesId front
      · let a : PortAddress := ⟨⟨front, isIdText_iff.mpr names⟩, back⟩
        have mine : Parted s a.handler.text a.port := parted
        exact .inl ⟨a, mine, nameless, read_of_parted mine nameless⟩
      · have unaddressed := Unaddressed.badHandler parted nameless names
        exact .inr ⟨_, unaddressed, unaddressed.refused⟩
  · exact .inr ⟨_, .noPoint absent, ofText_pointless absent⟩

theorem ofText_ok_iff : ofText? s = .ok a ↔ Parted s a.handler.text a.port ∧ a.port ≠ "" := by
  constructor
  · intro read
    rcases ofText_cases s with ⟨b, parted, named, other⟩ | ⟨f, _, refused⟩
    · rw [other] at read
      cases read
      exact ⟨parted, named⟩
    · rw [refused] at read
      cases read
  · rintro ⟨parted, named⟩
    exact read_of_parted parted named

theorem ofText_error_iff : ofText? s = .error f ↔ Unaddressed s f := by
  constructor
  · intro refused
    rcases ofText_cases s with ⟨b, _, _, read⟩ | ⟨g, unaddressed, other⟩
    · rw [read] at refused
      cases refused
    · rw [other] at refused
      cases refused
      exact unaddressed
  · exact Unaddressed.refused

/-! Writing. -/

theorem parted_text (a : PortAddress) : Parted a.text a.handler.text a.port :=
  ⟨rfl, (isIdText_iff.mp a.handler.valid).clear (by decide)⟩

theorem ofText_text_iff : ofText? a.text = .ok a ↔ a.port ≠ "" := by
  rw [ofText_ok_iff]
  exact and_iff_right (parted_text a)

theorem text_inj (same : a.text = b.text) : a = b := by
  obtain ⟨handlers, ports⟩ := (same ▸ parted_text a).unique (parted_text b)
  cases a
  cases b
  cases HandlerId.eq_of_text handlers
  cases ports
  rfl

end PortAddress

namespace Engine

def addresses (names : HandlerPorts → List String) (e : Engine) : List String :=
  e.handlers.flatMap fun h => (names h.ports).map fun name => PortAddress.text ⟨h.id, name⟩

def inputAddresses (e : Engine) : List String :=
  e.addresses fun ports => ports.inputs.map (·.name)

def outputAddresses (e : Engine) : List String :=
  e.addresses fun ports => ports.outputs.map (·.name)

variable {e : Engine}

theorem addresses_nodup {names : HandlerPorts → List String} (ids : e.ids.Nodup)
    (apart : ∀ h ∈ e.handlers, (names h.ports).Nodup) : (e.addresses names).Nodup := by
  rw [addresses, List.nodup_flatMap]
  constructor
  · intro h mem
    refine (apart h mem).map ?_
    intro one other same
    exact congrArg PortAddress.port (PortAddress.text_inj same)
  · -- Two handlers may have ports of one name, so here it is the ids that keep the texts apart.
    have handlers : e.handlers.Pairwise fun g h => g.id ≠ h.id := List.pairwise_map.mp ids
    refine handlers.imp ?_
    intro g h differ text here there
    obtain ⟨_, _, rfl⟩ := List.mem_map.mp here
    obtain ⟨_, _, same⟩ := List.mem_map.mp there
    exact differ (congrArg PortAddress.handler (PortAddress.text_inj same)).symm

theorem connectTexts_text {source target : PortAddress} (first : source.port ≠ "")
    (second : target.port ≠ "") (e : Engine) :
    e.connectTextsInPlace source.text target.text = e.connectInPlace source target := by
  unfold connectTextsInPlace
  rw [PortAddress.ofText_text_iff.mpr first, PortAddress.ofText_text_iff.mpr second]

end Engine

namespace Hosted

open Engine (Quiet make)
open PortAddress (ofText? Parted Unaddressed)

/-- A text is read as an address just when it has a point, a handler id before the first one and
something behind it, and then it is that address, written out. Ports can be connected by their
written addresses, and no two ports of one direction have the same. -/
theorem addresses_unambiguous :
    (∀ s, (∃ a, ofText? s = .ok a) ↔
      ∃ front back, Parted s front back ∧ NamesId front ∧ back ≠ "") ∧
    (∀ s a, ofText? s = .ok a → a.text = s) ∧
    (∀ s f, ofText? s = .error f ↔ Unaddressed s f) ∧
    (∀ a : PortAddress, ofText? a.text = .ok a ↔ a.port ≠ "") ∧
    (∀ (e : Engine) (source target : PortAddress), source.port ≠ "" → target.port ≠ "" →
      e.connectTextsInPlace source.text target.text = e.connectInPlace source target ∧
        e.connectTexts source.text target.text = e.connect source target) ∧
    ∀ (within : Engine → Prop) (h : Hosted), Reachable within h →
      h.engine.inputAddresses.Nodup ∧ h.engine.outputAddresses.Nodup := by
  refine ⟨fun s => ?_, fun s a => ?_, fun s f => PortAddress.ofText_error_iff,
    fun a => PortAddress.ofText_text_iff, ?_, ?_⟩
  · constructor
    · rintro ⟨a, read⟩
      obtain ⟨parted, named⟩ := PortAddress.ofText_ok_iff.mp read
      exact ⟨_, _, parted, isIdText_iff.mp a.handler.valid, named⟩
    · rintro ⟨front, back, parted, names, named⟩
      let a : PortAddress := ⟨⟨front, isIdText_iff.mpr names⟩, back⟩
      exact ⟨a, PortAddress.ofText_ok_iff.mpr ⟨parted, named⟩⟩
  · intro read
    exact (PortAddress.ofText_ok_iff.mp read).1.whole.symm
  · intro e source target first second
    have same := Engine.connectTexts_text first second e
    exact ⟨same, congrArg Engine.onSuccess same⟩
  · intro within h reach
    have distinct := (reachable_wired reach).distinct
    exact ⟨Engine.addresses_nodup distinct.ids fun x mem => (distinct.ports x mem).inputs,
      Engine.addresses_nodup distinct.ids fun x mem => (distinct.ports x mem).outputs⟩

def pointed : Hosted :=
  ((⟨.blank 0 (Settings.default.withFps 30.0) none, none⟩ : Hosted).added (some "eye")
    (.plain "Eye" [.output "left" .video, .output "left.near" .video] [])).added (some "view")
    (.plain "View" [.input ".." .video] [])

def nearEye : PortAddress := ⟨⟨"eye", by decide⟩, "left.near"⟩
def view : PortAddress := ⟨⟨"view", by decide⟩, ".."⟩

theorem addresses_unambiguous_pointed : Reachable Quiet pointed ∧
    ofText? "eye.left.near" = .ok nearEye ∧ ofText? "view..." = .ok view ∧
    ofText? "eye." = .error (.configuration (.addressPort "eye.")) ∧
    pointed.engine.connectTextsInPlace "eye.left.near" "view..." =
      pointed.engine.connectInPlace nearEye view ∧
    (pointed.engine.connectInPlace nearEye view).1 = .ok "conn_0" ∧
    pointed.engine.outputAddresses = ["eye.left", "eye.left.near"] ∧
    pointed.engine.outputAddresses.Nodup := by
  have reach : Reachable Quiet pointed :=
    .next (.next (.fresh (show make 0 .default 30.0 = .ok _ from rfl) none) (.add _ _)) (.add _ _)
  obtain ⟨_, _, refused, read, connected, apart⟩ := addresses_unambiguous
  have nameless : Parted "eye." "eye" "" := ⟨by decide, by decide⟩
  exact ⟨reach, (read nearEye).mpr (by decide), (read view).mpr (by decide),
    (refused _ _).mpr (.noPort nameless),
    (connected pointed.engine nearEye view (by decide) (by decide)).1, by decide +kernel, rfl,
    (apart Quiet pointed reach).2⟩

end Hosted

end Tickflow
