import Mathlib.Data.List.Chain
/-!
Reading DOT. A text is cut into words, quoted texts and marks, and these into statements. Texts that
leave nothing open are read one after the other, and a quoted text is read as it is when nothing in it
has a meaning between quotes.
-/
namespace Tickflow

namespace Dot

/-- Numerals, comments and markup do not occur; a text that has some is not read. -/
inductive Token where
  | word (text : List Char)
  | quoted (text : List Char)
  | arrow
  | mark (sign : Char)
  deriving DecidableEq, Repr

inductive Part where
  | gap
  | word (sofar : List Char)
  | dash
  | quote (sofar : List Char)
  /-- Inside quotes, after a backslash. -/
  | escape (sofar : List Char)
  deriving DecidableEq, Repr

def marks : List Char := ['\x7b', '\x7d', '[', ']', ';', ',', '=']

def begin? (c : Char) : Option (Part × List Token) :=
  if c.isWhitespace then some (.gap, [])
  else if c.isAlpha || c == '_' then some (.word [c], [])
  else if c == '"' then some (.quote [], [])
  else if c == '-' then some (.dash, [])
  else if marks.contains c then some (.gap, [.mark c])
  else none

/-- Between quotes a backslash makes a quote a part of the text and lets a line go on in the next one.
Before any other character it stands for itself. -/
def feed? : Part → Char → Option (Part × List Token)
  | .gap, c => begin? c
  | .word s, c =>
    if c.isAlphanum || c == '_' then some (.word (s ++ [c]), [])
    else (begin? c).map fun x => (x.1, .word s :: x.2)
  | .dash, c => if c = '>' then some (.gap, [.arrow]) else none
  | .quote s, c =>
    if c = '"' then some (.gap, [.quoted s])
    else if c = '\\' then some (.escape s, [])
    else some (.quote (s ++ [c]), [])
  | .escape s, c =>
    if c = '"' then some (.quote (s ++ [c]), [])
    else if c = '\n' then some (.quote s, [])
    else some (.quote (s ++ ['\\', c]), [])

def lex? : Part → List Char → Option (Part × List Token)
  | p, [] => some (p, [])
  | p, c :: rest => do
    let (q, front) ← feed? p c
    let (r, back) ← lex? q rest
    return (r, front ++ back)

def tokens? (s : List Char) : Option (List Token) := do
  match ← lex? .gap s with
  | (.gap, tokens) => return tokens
  | (.word w, tokens) => return tokens ++ [.word w]
  | _ => none

abbrev Attributes := List (String × String)

inductive Statement where
  | setting (key value : String)
  /-- For all nodes that follow. -/
  | defaults (attributes : Attributes)
  | node (id : String) (attributes : Attributes)
  | edge (source target : String) (attributes : Attributes)
  deriving DecidableEq, Repr

structure Digraph where
  name : String
  statements : List Statement
  deriving DecidableEq, Repr

def Token.value? : Token → Option String
  | .word s => some (String.ofList s)
  | .quoted s => some (String.ofList s)
  | _ => none

def items? : List Token → Option Attributes
  | [.word key, .mark '=', value, .mark ']'] => do
    return [(String.ofList key, ← value.value?)]
  | .word key :: .mark '=' :: value :: .mark ',' :: rest => do
    return (String.ofList key, ← value.value?) :: (← items? rest)
  | _ => none

def attributes? : List Token → Option Attributes
  | .mark '[' :: rest => items? rest
  | _ => none

def statement? : List Token → Option Statement
  | [.word key, .mark '=', .word value] => some (.setting (String.ofList key) (String.ofList value))
  | .word key :: rest =>
    if key = "node".toList then (attributes? rest).map .defaults else none
  | .quoted source :: .arrow :: .quoted target :: rest =>
    (attributes? rest).map (.edge (String.ofList source) (String.ofList target))
  | .quoted id :: rest => (attributes? rest).map (.node (String.ofList id))
  | _ => none

/-- Every statement ends in a semicolon, so nothing is left after the last one. -/
def statements? : List (List Token) → Option (List Statement)
  | [] => none
  | [rest] => if rest = [] then some [] else none
  | s :: t :: rest => do return (← statement? s) :: (← statements? (t :: rest))

def digraph? : List Token → Option Digraph
  | .word kind :: .word name :: .mark '\x7b' :: rest =>
    if kind = "digraph".toList ∧ rest.getLast? = some (.mark '\x7d') then
      (statements? (rest.dropLast.splitOnP (· = .mark ';'))).map (⟨String.ofList name, ·⟩)
    else none
  | _ => none

def read? (text : String) : Option Digraph := (tokens? text.toList).bind digraph?

/-! Texts that follow each other are read one after the other. -/

def Reads (p : Part) (s : List Char) (tokens : List Token) (q : Part) : Prop :=
  lex? p s = some (q, tokens)

variable {p q r : Part} {s t : List Char} {front back : List Token}

theorem Reads.tokens (reads : Reads .gap s front .gap) : tokens? s = some front := by
  simp only [Reads] at reads
  simp [tokens?, reads]

theorem Reads.nil (p : Part) : Reads p [] [] p := rfl

theorem Reads.cons {c : Char} (fed : feed? p c = some (q, front)) (rest : Reads q s back r) :
    Reads p (c :: s) (front ++ back) r := by
  simp only [Reads] at rest
  simp [Reads, lex?, fed, rest]

theorem Reads.append (first : Reads p s front q) (second : Reads q t back r) :
    Reads p (s ++ t) (front ++ back) r := by
  induction s generalizing p front with
  | nil =>
    cases first
    exact second
  | cons c s ih =>
    simp only [Reads, lex?, Option.bind_eq_bind, Option.bind_eq_some_iff] at first
    obtain ⟨⟨x, here⟩, fed, ⟨y, later⟩, rest, same⟩ := first
    cases same
    rw [List.append_assoc]
    exact .cons fed (ih rest)

/-- Nothing in the text ends it, or is lost, when it stands between quotes. -/
structure Unbroken (s : List Char) : Prop where
  unquoted : '"' ∉ s
  unjoined : s.IsChain fun x y => ¬ (x = '\\' ∧ y = '\n')

instance (s : List Char) : Decidable (Unbroken s) :=
  decidable_of_iff ('"' ∉ s ∧ s.IsChain fun x y => ¬ (x = '\\' ∧ y = '\n'))
    ⟨fun h => ⟨h.1, h.2⟩, fun h => ⟨h.1, h.2⟩⟩

def Plain (s : List Char) : Prop := Unbroken s ∧ s.getLast? ≠ some '\\'

instance (s : List Char) : Decidable (Plain s) := inferInstanceAs (Decidable (_ ∧ _))

theorem Unbroken.append (first : Unbroken s) (second : Unbroken t)
    (apart : s.getLast? ≠ some '\\' ∨ t.head? ≠ some '\n') : Unbroken (s ++ t) := by
  refine ⟨?_, List.isChain_append.mpr ⟨first.unjoined, second.unjoined, ?_⟩⟩
  · simp [first.unquoted, second.unquoted]
  · rintro x last y next ⟨rfl, rfl⟩
    rcases apart with other | other
    · exact other last
    · exact other next

def Within (s : List Char) (p : Part) : Prop :=
  p = .quote s ∨ ∃ front, s = front ++ ['\\'] ∧ p = .escape front

theorem feed_within {c : Char} (within : Within s p) (unquoted : c ≠ '"')
    (unjoined : ∀ x ∈ s.getLast?, ¬ (x = '\\' ∧ c = '\n')) :
    ∃ q, feed? p c = some (q, []) ∧ Within (s ++ [c]) q := by
  rcases within with rfl | ⟨front, rfl, rfl⟩
  · by_cases slash : c = '\\'
    · subst slash
      exact ⟨.escape s, rfl, .inr ⟨s, rfl, rfl⟩⟩
    · exact ⟨.quote (s ++ [c]), by simp [feed?, unquoted, slash], .inl rfl⟩
  · have stays : c ≠ '\n' := fun line => unjoined '\\' (by simp) ⟨rfl, line⟩
    exact ⟨.quote (front ++ ['\\', c]), by simp [feed?, unquoted, stays], .inl (by simp)⟩

theorem reads_within (within : Within s p) (unbroken : Unbroken (s ++ t)) :
    ∃ q, Reads p t [] q ∧ Within (s ++ t) q := by
  induction t generalizing s p with
  | nil => exact ⟨p, .nil p, by simpa using within⟩
  | cons c t ih =>
    obtain ⟨unquoted, unjoined⟩ := unbroken
    obtain ⟨q, fed, inside⟩ := feed_within (c := c) within (by rintro rfl; simp at unquoted)
      fun x last => (List.isChain_append.mp unjoined).2.2 x last c rfl
    have same : s ++ [c] ++ t = s ++ c :: t := by simp
    obtain ⟨r, rest, outside⟩ := ih inside (same ▸ ⟨unquoted, unjoined⟩)
    exact ⟨r, .cons fed rest, same ▸ outside⟩

theorem reads_quoted (plain : Plain s) : Reads .gap ('"' :: (s ++ ['"'])) [.quoted s] .gap := by
  obtain ⟨unbroken, last⟩ := plain
  obtain ⟨q, body, inside⟩ := reads_within (p := .quote []) (s := []) (.inl rfl) unbroken
  have closed : Reads q ['"'] [.quoted s] .gap := by
    rcases inside with rfl | ⟨front, same, _⟩
    · rfl
    · exact absurd (by simp [show s = front ++ ['\\'] from same]) last
  have opened : feed? .gap '"' = some (.quote [], []) := rfl
  exact .cons opened (body.append closed)

theorem reads_join {f : α → String} {g : α → List Token} {l : List α}
    (each : ∀ x ∈ l, Reads .gap (f x).toList (g x) .gap) :
    Reads .gap (String.join (l.map f)).toList (l.flatMap g) .gap := by
  induction l with
  | nil => exact .nil _
  | cons x l ih =>
    simp only [List.map_cons, String.join_cons, String.toList_append, List.flatMap_cons]
    exact (each x (by simp)).append (ih fun y mem => each y (List.mem_cons_of_mem _ mem))

theorem split_sentences {l : List (List Token)} (clear : ∀ s ∈ l, .mark ';' ∉ s) :
    (l.flatMap (· ++ [.mark ';'])).splitOnP (· = .mark ';') = l ++ [[]] := by
  induction l with
  | nil => rfl
  | cons s l ih =>
    have rest := ih fun x mem => clear x (List.mem_cons_of_mem _ mem)
    have here : ∀ x ∈ s, decide (x = Token.mark ';') = false := by
      intro x mem
      exact decide_eq_false fun same => clear s List.mem_cons_self (same ▸ mem)
    rw [List.flatMap_cons, List.append_assoc, List.singleton_append, List.cons_append,
      List.splitOnP_append_cons_of_forall_mem here _ (by simp), rest]

theorem statements_read {sentences : List (List Token)} {read : List Statement}
    (each : List.Forall₂ (fun s x => statement? s = some x) sentences read) :
    statements? (sentences ++ [[]]) = some read := by
  induction each with
  | nil => rfl
  | @cons s x rest _ here _ ih =>
    cases rest with
    | nil =>
      simp only [List.nil_append, statements?, ↓reduceIte, Option.some.injEq] at ih
      simp [statements?, here, ih]
    | cons t rest =>
      simp only [List.cons_append] at ih ⊢
      simp [statements?, here, ih]

theorem digraph_read {name : String} {sentences : List (List Token)} {read : List Statement}
    (clear : ∀ s ∈ sentences, .mark ';' ∉ s)
    (each : List.Forall₂ (fun s x => statement? s = some x) sentences read) :
    digraph? (.word "digraph".toList :: .word name.toList :: .mark '\x7b' ::
      (sentences.flatMap (· ++ [.mark ';']) ++ [.mark '\x7d'])) = some ⟨name, read⟩ := by
  refine (if_pos ⟨rfl, List.getLast?_concat⟩).trans ?_
  rw [List.dropLast_concat, split_sentences clear, statements_read each, Option.map_some,
    String.ofList_toList]

end Dot

end Tickflow
