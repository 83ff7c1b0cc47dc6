import Tickflow.Proofs.Directory
/-!
How actor URIs are written. A text is read as a URI just when it is the scheme and three parts of the
characters that each part may have; otherwise the first thing that is wrong with it is the fault. A URI
that was made from parts is also read back from its text, unless there is a slash in its host.
-/
namespace Tickflow

/-- The code points with the Unicode property White_Space. -/
def IsSpace (c : Char) : Prop :=
  (0x09 ≤ c.toNat ∧ c.toNat ≤ 0x0D) ∨ c.toNat = 0x20 ∨ c.toNat = 0x85 ∨ c.toNat = 0xA0 ∨
    c.toNat = 0x1680 ∨ (0x2000 ≤ c.toNat ∧ c.toNat ≤ 0x200A) ∨ c.toNat = 0x2028 ∨
    c.toNat = 0x2029 ∨ c.toNat = 0x202F ∨ c.toNat = 0x205F ∨ c.toNat = 0x3000

theorem isBlank_iff {c : Char} : Text.isBlank c = true ↔ IsSpace c := by
  simp only [Text.isBlank, Text.blankRanges, List.any_cons, List.any_nil, Bool.or_eq_true,
    Bool.and_eq_true, decide_eq_true_eq, Bool.false_eq_true, or_false, IsSpace]
  omega

structure NamesId (id : String) : Prop where
  filled : id ≠ ""
  allowed : ∀ c ∈ id.toList, IsLetter c ∨ IsDigit c ∨ c = '_' ∨ c = '-'

theorem isIdChar_iff {c : Char} :
    isIdChar c = true ↔ IsLetter c ∨ IsDigit c ∨ c = '_' ∨ c = '-' := by
  simp only [isIdChar, Bool.or_eq_true, isAlphanum_iff, beq_iff_eq, or_assoc]

theorem isIdText_iff {id : String} : isIdText id.toList = true ↔ NamesId id := by
  simp only [isIdText, Bool.and_eq_true, Bool.not_eq_true', List.isEmpty_eq_false_iff, ne_eq,
    String.toList_eq_nil_iff, List.all_eq_true, isIdChar_iff]
  constructor
  · rintro ⟨filled, allowed⟩
    exact ⟨filled, allowed⟩
  · intro names
    exact ⟨names.filled, names.allowed⟩

namespace HandlerId

theorem ofText_text (id : HandlerId) : ofText? id.text = .ok id := dif_pos id.valid

theorem eq_of_text {x y : HandlerId} (same : x.text = y.text) : x = y := by
  cases x
  cases y
  cases same
  rfl

end HandlerId

theorem slash_not_letter : ¬ IsLetter '/' := by
  unfold IsLetter
  decide

theorem slash_not_digit : ¬ IsDigit '/' := by
  unfold IsDigit
  decide

theorem NamesClass.no_slash {name : String} (names : NamesClass name) : '/' ∉ name.toList := by
  obtain ⟨c, rest, same, letter, others⟩ := names
  rw [same]
  intro mem
  rcases List.mem_cons.mp mem with here | later
  · exact slash_not_letter (here ▸ letter)
  · rcases others '/' later with first | second
    · exact slash_not_letter first
    · exact slash_not_digit second

theorem NamesId.clear {id : String} (names : NamesId id) {c : Char} (other : isIdChar c = false) :
    c ∉ id.toList := by
  intro mem
  have allowed := isIdChar_iff.mpr (names.allowed c mem)
  rw [other] at allowed
  cases allowed

theorem NamesId.no_slash {id : String} (names : NamesId id) : '/' ∉ id.toList :=
  names.clear (by decide)

namespace ActorUri

structure NamesHost (host : String) : Prop where
  filled : host ≠ ""
  solid : ∀ c ∈ host.toList, ¬ IsSpace c

theorem isHost_iff {host : String} : isHost host.toList = true ↔ NamesHost host := by
  simp only [isHost, Bool.and_eq_true, Bool.not_eq_true', List.isEmpty_eq_false_iff, ne_eq,
    String.toList_eq_nil_iff, List.any_eq_false, isBlank_iff]
  constructor
  · rintro ⟨filled, solid⟩
    exact ⟨filled, solid⟩
  · intro names
    exact ⟨names.filled, names.solid⟩

/-! Three parts. -/

structure Named (u : ActorUri) : Prop where
  host : NamesHost u.host
  className : NamesClass u.className
  instanceId : NamesId u.instanceId

/-- The first of three parts that is not as it should be, with the fault that says so. -/
inductive Misnamed (whole host className instanceId : String) : UriFault → Prop where
  | host (bad : ¬ NamesHost host) : Misnamed whole host className instanceId (.invalidHost whole)
  | className (first : NamesHost host) (bad : ¬ NamesClass className) :
      Misnamed whole host className instanceId (.invalidClassName whole className)
  | instanceId (first : NamesHost host) (second : NamesClass className)
      (bad : ¬ NamesId instanceId) :
      Misnamed whole host className instanceId (.invalidInstanceId whole instanceId)

section
variable {whole host className instanceId : String}

theorem check_cases (whole host className instanceId : String) :
    (Named ⟨host, className, instanceId⟩ ∧
      check whole host className instanceId = .ok ⟨host, className, instanceId⟩) ∨
    ∃ f, Misnamed whole host className instanceId f ∧
      check whole host className instanceId = .error f := by
  unfold check
  by_cases first : isHost host.toList = true
  · by_cases second : isClassName className.toList = true
    · by_cases third : isIdText instanceId.toList = true
      · exact .inl ⟨⟨isHost_iff.mp first, isClassName_iff.mp second, isIdText_iff.mp third⟩,
          by simp [first, second, third]⟩
      · refine .inr ⟨_, .instanceId (isHost_iff.mp first) (isClassName_iff.mp second) ?_,
          by simp [first, second, third]⟩
        exact fun names => third (isIdText_iff.mpr names)
    · refine .inr ⟨_, .className (isHost_iff.mp first) ?_, by simp [first, second]⟩
      exact fun names => second (isClassName_iff.mpr names)
  · refine .inr ⟨_, .host ?_, by simp [first]⟩
    exact fun names => first (isHost_iff.mpr names)

theorem Misnamed.not_named {f : UriFault} (misnamed : Misnamed whole host className instanceId f) :
    ¬ Named ⟨host, className, instanceId⟩ := by
  intro named
  cases misnamed with
  | host bad => exact bad named.host
  | className _ bad => exact bad named.className
  | instanceId _ _ bad => exact bad named.instanceId

theorem Misnamed.unique {f g : UriFault} (one : Misnamed whole host className instanceId f)
    (other : Misnamed whole host className instanceId g) : f = g := by
  cases one with
  | host bad =>
    cases other with
    | host => rfl
    | className good | instanceId good => exact absurd good bad
  | className first bad =>
    cases other with
    | host worse => exact absurd first worse
    | className => rfl
    | instanceId _ good => exact absurd good bad
  | instanceId first second bad =>
    cases other with
    | host worse => exact absurd first worse
    | className _ worse => exact absurd second worse
    | instanceId => rfl

theorem check_ok_iff {u : ActorUri} : check whole host className instanceId = .ok u ↔
    u = ⟨host, className, instanceId⟩ ∧ Named u := by
  rcases check_cases whole host className instanceId with ⟨named, done⟩ | ⟨f, misnamed, done⟩
  · rw [done, Except.ok.injEq]
    constructor
    · rintro rfl
      exact ⟨rfl, named⟩
    · rintro ⟨rfl, _⟩
      rfl
  · rw [done]
    constructor
    · intro other
      cases other
    · rintro ⟨rfl, named⟩
      exact absurd named misnamed.not_named

theorem check_error_iff {f : UriFault} : check whole host className instanceId = .error f ↔
    Misnamed whole host className instanceId f := by
  rcases check_cases whole host className instanceId with ⟨named, done⟩ | ⟨g, misnamed, done⟩
  · rw [done]
    constructor
    · intro other
      cases other
    · intro misnamed
      exact absurd named misnamed.not_named
  · rw [done, Except.error.injEq]
    constructor
    · rintro rfl
      exact misnamed
    · exact misnamed.unique

end

/-! Texts. -/

/-- The first `://` of the text stands between the two others. -/
def Opens (s found rest : String) : Prop :=
  s = found ++ "://" ++ rest ∧ ∀ a b, s = a ++ "://" ++ b → found.length ≤ a.length

structure Segments (s host className instanceId : String) : Prop where
  whole : s = "streamlib://" ++ host ++ "/" ++ className ++ "/" ++ instanceId
  clear : '/' ∉ host.toList ∧ '/' ∉ className.toList ∧ '/' ∉ instanceId.toList

/-- The text is this URI, in the only way to write it. -/
structure Written (s : String) (u : ActorUri) : Prop where
  segments : Segments s u.host u.className u.instanceId
  named : Named u

/-- The first thing that is wrong with the text, with the fault that says so. -/
inductive Illegible (s : String) : UriFault → Prop where
  | missingScheme (nowhere : ∀ a b, s ≠ a ++ "://" ++ b) : Illegible s (.missingScheme s)
  | invalidScheme {found rest : String} (opens : Opens s found rest) (other : found ≠ "streamlib") :
      Illegible s (.invalidScheme s found)
  | invalidShape {rest : String} (whole : s = "streamlib://" ++ rest)
      (count : rest.toList.count '/' ≠ 2) : Illegible s (.invalidShape s)
  | parts {host className instanceId : String} {f : UriFault}
      (segments : Segments s host className instanceId)
      (misnamed : Misnamed s host className instanceId f) : Illegible s f

variable {s host className instanceId : String}

theorem cut_scheme_iff {found rest : List Char} :
    Text.cut? "://".toList s.toList = some (found, rest) ↔
      Opens s (String.ofList found) (String.ofList rest) := by
  rw [Text.cut_iff, Opens]
  constructor
  · rintro ⟨same, least⟩
    refine ⟨?_, fun a b split => ?_⟩
    · rw [← String.toList_inj, same]
      simp
    · have first := least a.toList b.toList (by rw [split]; simp)
      rw [String.length_ofList, ← String.length_toList]
      exact first
  · rintro ⟨same, least⟩
    refine ⟨by rw [same]; simp, fun c d split => ?_⟩
    have first := least (String.ofList c) (String.ofList d) ?_
    · rwa [String.length_ofList, String.length_ofList] at first
    · rw [← String.toList_inj, split]
      simp

theorem cut_scheme_none_iff :
    Text.cut? "://".toList s.toList = none ↔ ∀ a b, s ≠ a ++ "://" ++ b := by
  rw [Text.cut_none_iff]
  constructor
  · intro nowhere a b same
    exact nowhere a.toList b.toList (by rw [same]; simp)
  · intro nowhere a b same
    refine nowhere (String.ofList a) (String.ofList b) ?_
    rw [← String.toList_inj, same]
    simp

theorem ofText_no_scheme (nowhere : ∀ a b, s ≠ a ++ "://" ++ b) :
    ofText? s = .error (.missingScheme s) := by
  simp only [ofText?, cut_scheme_none_iff.mpr nowhere]

theorem ofText_other_scheme {found rest : String} (opens : Opens s found rest)
    (other : found ≠ "streamlib") : ofText? s = .error (.invalidScheme s found) := by
  have cut : Text.cut? "://".toList s.toList = some (found.toList, rest.toList) := by
    rw [cut_scheme_iff, String.ofList_toList, String.ofList_toList]
    exact opens
  have differ : found ≠ scheme := other
  simp only [ofText?, cut, String.ofList_toList]
  rw [if_pos differ]

theorem cut_own_scheme (rest : String) :
    Text.cut? "://".toList ("streamlib://" ++ rest).toList =
      some ("streamlib".toList, rest.toList) := by
  have text : ("streamlib://" ++ rest).toList = "streamlib".toList ++ "://".toList ++ rest.toList := by
    rw [String.toList_append]
    rfl
  have clear : ':' ∉ "streamlib".toList := by decide
  rw [text]
  exact @Text.cut_clear ':' "//".toList _ clear rest.toList

theorem ofText_own_scheme (rest : String) : ofText? ("streamlib://" ++ rest) =
    match Text.pieces '/' rest.toList with
    | [host, className, instanceId] => check ("streamlib://" ++ rest) (String.ofList host)
        (String.ofList className) (String.ofList instanceId)
    | _ => .error (.invalidShape ("streamlib://" ++ rest)) := by
  simp only [ofText?, cut_own_scheme]
  rfl

theorem ofText_segments (segments : Segments s host className instanceId) :
    ofText? s = check s host className instanceId := by
  obtain ⟨whole, first, second, third⟩ := segments
  have text : s = "streamlib://" ++ (host ++ "/" ++ className ++ "/" ++ instanceId) := by
    rw [whole]
    simp only [String.append_assoc]
  have three : Text.pieces '/' (host ++ "/" ++ className ++ "/" ++ instanceId).toList =
      [host.toList, className.toList, instanceId.toList] := by
    have cut : (host ++ "/" ++ className ++ "/" ++ instanceId).toList =
        host.toList ++ '/' :: (className.toList ++ '/' :: instanceId.toList) := by simp
    rw [cut, Text.pieces_append first, Text.pieces_append second, Text.pieces_clear third]
  rw [text, ofText_own_scheme, three]
  simp only [String.ofList_toList]

theorem ofText_misshapen {rest : String} (count : rest.toList.count '/' ≠ 2) :
    ofText? ("streamlib://" ++ rest) = .error (.invalidShape ("streamlib://" ++ rest)) := by
  have many := Text.length_pieces '/' rest.toList
  rw [ofText_own_scheme]
  split
  · rename_i three
    rw [three] at many
    simp only [List.length_cons, List.length_nil] at many
    omega
  · rfl

theorem segments_of_count {rest : String} (count : rest.toList.count '/' = 2) :
    ∃ host className instanceId, Segments ("streamlib://" ++ rest) host className instanceId := by
  have many := Text.length_pieces '/' rest.toList
  rw [count] at many
  obtain ⟨p, q, t, parts⟩ := List.length_eq_three.mp many
  obtain ⟨clear_p, ⟨none_left, _⟩ | ⟨after_p, same_p, left_p⟩⟩ := Text.pieces_cons parts
  · cases none_left
  obtain ⟨clear_q, ⟨none_left, _⟩ | ⟨after_q, same_q, left_q⟩⟩ := Text.pieces_cons left_p
  · cases none_left
  obtain ⟨clear_t, ⟨_, same_t⟩ | ⟨after_t, _, left_t⟩⟩ := Text.pieces_cons left_q
  · refine ⟨String.ofList p, String.ofList q, String.ofList t, ?_, ?_⟩
    · rw [← String.toList_inj]
      simp [same_p, same_q, same_t]
    · simp only [String.toList_ofList]
      exact ⟨clear_p, clear_q, clear_t⟩
  · exact absurd left_t (Text.pieces_ne_nil '/' after_t)

theorem ofText_cases (s : String) :
    (∃ u, Written s u ∧ ofText? s = .ok u) ∨ ∃ f, Illegible s f ∧ ofText? s = .error f := by
  cases cut : Text.cut? "://".toList s.toList with
  | none =>
    have nowhere := cut_scheme_none_iff.mp cut
    exact .inr ⟨_, .missingScheme nowhere, ofText_no_scheme nowhere⟩
  | some parts =>
    obtain ⟨found, rest⟩ := parts
    have opens := cut_scheme_iff.mp cut
    by_cases own : String.ofList found = "streamlib"
    · obtain rfl : s = "streamlib://" ++ String.ofList rest := by
        rw [opens.1, own]
        rfl
      by_cases count : (String.ofList rest).toList.count '/' = 2
      · obtain ⟨host, className, instanceId, segments⟩ := segments_of_count count
        rw [ofText_segments segments]
        rcases check_cases ("streamlib://" ++ String.ofList rest) host className instanceId with
          ⟨named, done⟩ | ⟨f, misnamed, done⟩
        · exact .inl ⟨_, ⟨segments, named⟩, done⟩
        · exact .inr ⟨f, .parts segments misnamed, done⟩
      · exact .inr ⟨_, .invalidShape rfl count, ofText_misshapen count⟩
    · exact .inr ⟨_, .invalidScheme opens own, ofText_other_scheme opens own⟩

theorem Written.read {u : ActorUri} (written : Written s u) : ofText? s = .ok u := by
  rw [ofText_segments written.segments, check_ok_iff]
  exact ⟨rfl, written.named⟩

theorem Illegible.refused {f : UriFault} (illegible : Illegible s f) : ofText? s = .error f := by
  cases illegible with
  | missingScheme nowhere => exact ofText_no_scheme nowhere
  | invalidScheme opens other => exact ofText_other_scheme opens other
  | invalidShape whole count => rw [whole, ofText_misshapen count]
  | parts segments misnamed => rw [ofText_segments segments, check_error_iff.mpr misnamed]

theorem Written.text {u : ActorUri} (written : Written s u) : u.text = s := by
  rw [written.segments.whole]
  rfl

theorem written_of_read {u : ActorUri} (read : ofText? s = .ok u) : Written s u := by
  rcases ofText_cases s with ⟨v, written, done⟩ | ⟨f, _, refused⟩
  · rw [done] at read
    cases read
    exact written
  · rw [refused] at read
    cases read

theorem illegible_of_refused {f : UriFault} (refused : ofText? s = .error f) : Illegible s f := by
  rcases ofText_cases s with ⟨u, _, read⟩ | ⟨g, illegible, done⟩
  · rw [read] at refused
    cases refused
  · rw [done] at refused
    cases refused
    exact illegible

/-- A text is read as a URI just when it is that URI, written out. Otherwise the fault is the first thing
that is wrong with it. -/
theorem reads_what_is_written (s : String) :
    (∀ u, ofText? s = .ok u ↔ Written s u ∧ u.text = s) ∧
      ∀ f, ofText? s = .error f ↔ Illegible s f := by
  constructor
  · intro u
    constructor
    · intro read
      have written := written_of_read read
      exact ⟨written, written.text⟩
    · rintro ⟨written, _⟩
      exact written.read
  · intro f
    exact ⟨illegible_of_refused, Illegible.refused⟩

/-- There may be colons in a host. -/
example : ofText? "streamlib://[::1]:80/Cam/cam_0" = .ok ⟨"[::1]:80", "Cam", "cam_0"⟩ := by
  decide +kernel

/-! URIs that can be made. -/

/-- A URI that was made from parts, read from a text, or put under the canonical local host. -/
inductive Built : ActorUri → Prop where
  | made {host className instanceId : String} {u : ActorUri}
      (made : make host className instanceId = .ok u) : Built u
  | read {s : String} {u : ActorUri} (read : ofText? s = .ok u) : Built u
  | toLocal {u : ActorUri} (built : Built u) : Built u.toLocal

variable {u v : ActorUri}

theorem make_ok_iff : make host className instanceId = .ok u ↔
    u = ⟨host, className, instanceId⟩ ∧ Named u := check_ok_iff

theorem Built.named (built : Built u) : Named u := by
  induction built with
  | made made => exact (make_ok_iff.mp made).2
  | read read => exact (written_of_read read).named
  | @toLocal u _ named =>
    have host : NamesHost localHost := isHost_iff.mp (by decide)
    exact ⟨host, named.className, named.instanceId⟩

theorem textOf_segments (first : '/' ∉ host.toList) (second : '/' ∉ className.toList)
    (third : '/' ∉ instanceId.toList) :
    Segments (textOf host className instanceId) host className instanceId :=
  ⟨rfl, first, second, third⟩

theorem ofText_slashed
    (slash : '/' ∈ host.toList ∨ '/' ∈ className.toList ∨ '/' ∈ instanceId.toList) :
    ofText? (textOf host className instanceId) =
      .error (.invalidShape (textOf host className instanceId)) := by
  have text : textOf host className instanceId =
      "streamlib://" ++ (host ++ "/" ++ className ++ "/" ++ instanceId) := by
    simp only [textOf, scheme, ← String.append_assoc]
    rfl
  rw [text]
  apply ofText_misshapen
  have more : 0 < host.toList.count '/' ∨ 0 < className.toList.count '/' ∨
      0 < instanceId.toList.count '/' := by
    simp only [List.count_pos_iff]
    exact slash
  simp only [String.toList_append, List.count_append]
  have one : "/".toList.count '/' = 1 := by decide
  omega

theorem Named.read_iff (named : Named u) : ofText? u.text = .ok u ↔ '/' ∉ u.host.toList := by
  constructor
  · intro read slash
    have refused : ofText? u.text = .error (.invalidShape u.text) := ofText_slashed (.inl slash)
    rw [refused] at read
    cases read
  · intro clear
    have segments : Segments u.text u.host u.className u.instanceId :=
      textOf_segments clear named.className.no_slash named.instanceId.no_slash
    exact Written.read ⟨segments, named⟩

theorem ofText_textOf_iff : ofText? (textOf host className instanceId) = .ok u ↔
    make host className instanceId = .ok u ∧ '/' ∉ host.toList := by
  constructor
  · intro read
    have clear : ¬ ('/' ∈ host.toList ∨ '/' ∈ className.toList ∨ '/' ∈ instanceId.toList) := by
      intro slash
      rw [ofText_slashed slash] at read
      cases read
    obtain ⟨first, rest⟩ := not_or.mp clear
    obtain ⟨second, third⟩ := not_or.mp rest
    rw [ofText_segments (textOf_segments first second third)] at read
    exact ⟨read, first⟩
  · rintro ⟨made, clear⟩
    obtain ⟨rfl, named⟩ := make_ok_iff.mp made
    exact named.read_iff.mpr clear

theorem last_split {x : Char} {a b c d : List Char} (clear_b : x ∉ b) (clear_d : x ∉ d)
    (same : a ++ x :: b = c ++ x :: d) : a = c ∧ b = d := by
  -- If one of the two fronts went on behind the other, it would be over an `x` in what follows that one.
  rcases List.append_eq_append_iff.mp same with ⟨t, rfl, tails⟩ | ⟨t, rfl, tails⟩
  · cases t with
    | nil => simpa using tails
    | cons y t =>
      obtain ⟨_, rfl⟩ := List.cons.inj tails
      exact absurd (List.mem_append_right t List.mem_cons_self) clear_b
  · cases t with
    | nil => simpa [eq_comm] using tails
    | cons y t =>
      obtain ⟨_, rfl⟩ := List.cons.inj tails
      exact absurd (List.mem_append_right t List.mem_cons_self) clear_d

/-- Whatever the hosts are, the class names and the instance ids begin at the last two slashes. -/
theorem Named.text_inj (left : Named u) (right : Named v) (same : u.text = v.text) : u = v := by
  have text (u : ActorUri) : u.text.toList = ("streamlib://".toList ++ u.host.toList ++
      '/' :: u.className.toList) ++ '/' :: u.instanceId.toList := by
    simp [ActorUri.text, textOf, scheme]
  have lists := congrArg String.toList same
  rw [text, text] at lists
  obtain ⟨front, ids⟩ := last_split left.instanceId.no_slash right.instanceId.no_slash lists
  obtain ⟨hosts, classes⟩ := last_split left.className.no_slash right.className.no_slash front
  obtain ⟨h, c, i⟩ := u
  obtain ⟨h', c', i'⟩ := v
  obtain rfl : h = h' := String.toList_inj.mp (List.append_cancel_left hosts)
  obtain rfl : c = c' := String.toList_inj.mp classes
  obtain rfl : i = i' := String.toList_inj.mp ids
  rfl

/-- Three parts make a URI just when their text is read as the same URI, unless there is a slash in the
host. The text of such a URI is not read as any, but no other URI has it. -/
theorem made_reads_back (host className instanceId : String) :
    (∀ u, ofText? (textOf host className instanceId) = .ok u ↔
      make host className instanceId = .ok u ∧ '/' ∉ host.toList) ∧
    ('/' ∈ host.toList → ofText? (textOf host className instanceId) =
      .error (.invalidShape (textOf host className instanceId))) ∧
    (∀ u, Built u → (ofText? u.text = .ok u ↔ '/' ∉ u.host.toList)) ∧
    ∀ u v, Built u → Built v → u.text = v.text → u = v := by
  refine ⟨fun u => ofText_textOf_iff, ?_, ?_, ?_⟩
  · intro slash
    exact ofText_slashed (.inl slash)
  · intro u built
    exact built.named.read_iff
  · intro u v left right same
    exact left.named.text_inj right.named same

theorem made_reads_back_bracketed :
    ofText? "streamlib://[::1]/Cam/cam_0" = .ok ⟨"[::1]", "Cam", "cam_0"⟩ ∧
    (∀ u, Built u → u.text = "streamlib://[::1]/Cam/cam_0" → u = ⟨"[::1]", "Cam", "cam_0"⟩) ∧
    ofText? "streamlib://lab/north/Cam/cam_0" =
      .error (.invalidShape "streamlib://lab/north/Cam/cam_0") := by
  have made : make "[::1]" "Cam" "cam_0" = .ok ⟨"[::1]", "Cam", "cam_0"⟩ := by decide +kernel
  obtain ⟨agrees, _, _, injective⟩ := made_reads_back "[::1]" "Cam" "cam_0"
  obtain ⟨_, slashed, _⟩ := made_reads_back "lab/north" "Cam" "cam_0"
  refine ⟨(agrees _).mpr ⟨made, by decide⟩, ?_, slashed (by decide)⟩
  intro u built same
  exact injective u _ built (.made made) same

/-- A slash in a host is no fault for three parts, but it is for their text. -/
theorem made_reads_back_slashed : ¬ ∀ host className instanceId,
    (∃ u, make host className instanceId = .ok u) ↔
      ∃ u, ofText? (textOf host className instanceId) = .ok u := by
  intro claimed
  have made : make "lab/north" "Blur" "blur_0" = .ok ⟨"lab/north", "Blur", "blur_0"⟩ := by
    decide +kernel
  obtain ⟨u, read⟩ := (claimed "lab/north" "Blur" "blur_0").mp ⟨_, made⟩
  have refused : ofText? (textOf "lab/north" "Blur" "blur_0") =
      .error (.invalidShape "streamlib://lab/north/Blur/blur_0") := by decide +kernel
  rw [refused] at read
  cases read

end ActorUri

end Tickflow
