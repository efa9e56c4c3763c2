import Mathlib
import StepScript.Phrase
import StepScript.Proofs.Text.Lines

/-!
# Taking a line apart into words, and putting words into a line

**When a text is one word.** `Position.through?` reads a text from a position in a word and says
where it ends, as long as no blank ends the word before. A word that ends outside its literal is
closed: a blank behind it ends it. A word whose literal is not closed takes everything behind it, so
it can only be the last one of a line. `Phrase.WellFormed` says this of a list of words.

**Round trip.** The words of a line are well-formed (`wellFormed_words`), and words that are
well-formed, put into a line with single blanks between them, are the words of that line
(`words_unwords`). Being well-formed survives leaving words out and changing them, as long as closed
words stay closed.

**Spacing.** A text whose words open no literal can be put in front of a line, with whatever blanks
it has: its words come first (`words_append_blank`).
-/

namespace StepScript.Phrase

namespace Position

/-- The position after a further character of a word; none when the character is a blank that
stands before the word or ends it. -/
def next? : Position → Char → Option Position
  | .between, c => if isBlank c then none else some (.opening c)
  | .inWord, c => if isBlank c then none else some .inWord
  | .inLiteral close, c => some (if c = close then .inWord else .inLiteral close)

/-- The position after a text, if all of it belongs to one word. -/
def through? : Position → Text → Option Position
  | p, [] => some p
  | p, c :: rest =>
    match p.next? c with
    | none => none
    | some q => q.through? rest

variable {p q : Position} {c : Char} {t u : Text}

/-- Whatever character comes first, something has begun. -/
@[simp] theorem opening_ne_between (c : Char) : opening c ≠ .between := by
  unfold opening
  split <;> simp

/-- After a character of a word, the word has begun. -/
theorem ne_between_of_next? (h : p.next? c = some q) : q ≠ .between := by
  cases p with
  | between =>
    rw [next?] at h
    split at h
    · cases h
    · cases h
      exact opening_ne_between c
  | inWord =>
    rw [next?] at h
    split at h
    · cases h
    · cases h
      simp
  | inLiteral close =>
    cases h
    split <;> simp

/-- A text is read character by character. -/
theorem through?_cons (h : p.next? c = some q) : p.through? (c :: t) = q.through? t := by
  rw [through?, h]

/-- Texts are read one after the other. -/
theorem through?_append (h : p.through? t = some q) : p.through? (t ++ u) = q.through? u := by
  induction t generalizing p with
  | nil =>
    cases h
    rfl
  | cons c t ih =>
    cases next : p.next? c with
    | none =>
      rw [through?, next] at h
      cases h
    | some next =>
      rw [through?_cons ‹_›] at h
      rw [List.cons_append, through?_cons ‹_›, ih h]

/-- A text without blanks goes on with a word. -/
theorem through?_inWord (plain : ∀ c ∈ t, isBlank c = false) :
    inWord.through? t = some .inWord := by
  induction t with
  | nil => rfl
  | cons c t ih =>
    rw [List.forall_mem_cons] at plain
    have next : inWord.next? c = some .inWord := by simp [next?, plain.1]
    rw [through?_cons next, ih plain.2]

/-- A text without the closing delimiter goes on with a literal. -/
theorem through?_inLiteral {close : Char} (inside : close ∉ t) :
    (inLiteral close).through? t = some (.inLiteral close) := by
  induction t with
  | nil => rfl
  | cons c t ih =>
    rw [List.mem_cons, not_or] at inside
    have next : (inLiteral close).next? c = some (.inLiteral close) := by
      rw [next?, if_neg (Ne.symm inside.1)]
    rw [through?_cons next, ih inside.2]

end Position

open Position

/-- A text that is read as one word, closed or not. -/
def Begun (word : Text) : Prop := ∃ q, Position.between.through? word = some q ∧ q ≠ .between

/-- A word that a blank behind it ends. -/
def Closed (word : Text) : Prop := Position.between.through? word = some .inWord

/-- A closed word is a word. -/
theorem Closed.begun {word : Text} (closed : Closed word) : Begun word := ⟨.inWord, closed, by simp⟩

/-- Whether the rest of a line, read from a position, can have the given words. Only the last one
may have a literal that is not closed. -/
def WellFormed : Position → List Text → Prop
  | p, [] => p = .between
  | p, [word] => ∃ q, p.through? word = some q ∧ q ≠ .between
  | p, word :: next :: words => p.through? word = some .inWord ∧ WellFormed .between (next :: words)

variable {p q : Position} {c : Char} {t word : Text} {ws : List Text}

/-! ## Reading one word -/

/-- A character of a word is the first one of its first piece. -/
theorem wordsFrom_cons_of_next? (h : p.next? c = some q) (rest : Text) :
    wordsFrom p (c :: rest) = Text.consHead c (wordsFrom q rest) := by
  cases p with
  | between =>
    rw [Position.next?] at h
    split at h
    · cases h
    · cases h
      rw [wordsFrom, if_neg ‹_›]
  | inWord =>
    rw [Position.next?] at h
    split at h
    · cases h
    · cases h
      rw [wordsFrom, if_neg ‹_›]
  | inLiteral close =>
    cases h
    rw [wordsFrom]

/-- Characters in front of a first piece. -/
theorem foldr_consHead (t first : Text) (others : List Text) :
    t.foldr Text.consHead (first :: others) = (t ++ first) :: others := by
  induction t with
  | nil => rfl
  | cons c t ih => rw [List.foldr_cons, ih, Text.consHead, List.cons_append]

/-- A text that belongs to one word stands in front of the first piece of what follows. -/
theorem wordsFrom_append (h : p.through? t = some q) (rest : Text) :
    wordsFrom p (t ++ rest) = t.foldr Text.consHead (wordsFrom q rest) := by
  induction t generalizing p with
  | nil =>
    cases h
    rfl
  | cons c t ih =>
    cases next : p.next? c with
    | none =>
      rw [Position.through?, next] at h
      cases h
    | some next =>
      rw [through?_cons ‹_›] at h
      rw [List.cons_append, wordsFrom_cons_of_next? ‹_›, ih h, List.foldr_cons]

/-- A closed word and a blank are read as that word. -/
theorem words_append_of_closed (closed : Closed word) (rest : Text) :
    words (word ++ ' ' :: rest) = word :: words rest := by
  have blank : wordsFrom .inWord (' ' :: rest) = [] :: words rest := by
    rw [wordsFrom, if_pos (by decide), words]
  rw [words, wordsFrom_append closed, blank, foldr_consHead, List.append_nil]

/-- A line that is one word has that word. -/
theorem words_eq_singleton (h : Position.between.through? word = some q) (begun : q ≠ .between) :
    words word = [word] := by
  have rest : wordsFrom q [] = [[]] := by
    cases q with
    | between => exact absurd rfl begun
    | inWord => rfl
    | inLiteral close => rfl
  have read := wordsFrom_append h []
  rw [List.append_nil, rest, foldr_consHead, List.append_nil] at read
  exact read

/-! ## Well-formed lists of words -/

/-- A character in front of the first word. -/
theorem WellFormed.consHead (formed : WellFormed q ws) (h : p.next? c = some q) :
    WellFormed p (Text.consHead c ws) := by
  match ws, formed with
  | [], formed => exact absurd formed (ne_between_of_next? h)
  | [_], ⟨r, read, begun⟩ => exact ⟨r, (through?_cons h).trans read, begun⟩
  | _ :: _ :: _, ⟨read, later⟩ => exact ⟨(through?_cons h).trans read, later⟩

/-- Read from any position, the words of a line are well-formed. -/
theorem wellFormed_wordsFrom (p : Position) (line : Text) : WellFormed p (wordsFrom p line) := by
  induction line generalizing p with
  | nil =>
    cases p with
    | between => rfl
    | inWord => exact ⟨.inWord, rfl, by simp⟩
    | inLiteral close => exact ⟨.inLiteral close, rfl, by simp⟩
  | cons c line ih =>
    cases next : p.next? c with
    | some q =>
      rw [wordsFrom_cons_of_next? next]
      exact (ih q).consHead next
    | none =>
      cases p with
      | between =>
        have blank : isBlank c = true := by simpa [Position.next?] using next
        rw [wordsFrom, if_pos blank]
        exact ih .between
      | inWord =>
        have blank : isBlank c = true := by simpa [Position.next?] using next
        rw [wordsFrom, if_pos blank]
        have later := ih .between
        generalize wordsFrom .between line = words at later
        cases words with
        | nil => exact ⟨.inWord, rfl, by simp⟩
        | cons first others => exact ⟨rfl, later⟩
      | inLiteral close => cases next

/-- **The words of a line are well-formed.** -/
theorem wellFormed_words (line : Text) : WellFormed .between (words line) :=
  wellFormed_wordsFrom .between line

/-- **Words that are well-formed are the words of the line that they make.** -/
theorem words_unwords : ∀ {ws : List Text}, WellFormed .between ws → words (Text.unwords ws) = ws
  | [], _ => rfl
  | [word], ⟨_, read, begun⟩ => by
    rw [Text.unwords, List.intercalate_singleton]
    exact words_eq_singleton read begun
  | word :: next :: ws, ⟨closed, later⟩ => by
    have line : Text.unwords (word :: next :: ws) = word ++ ' ' :: Text.unwords (next :: ws) := by
      rw [Text.unwords, List.intercalate_cons_cons, List.append_assoc]
      rfl
    rw [line, words_append_of_closed closed, words_unwords later]

/-- **A list of words is well-formed if each is a word, and each that another one follows is
closed.** -/
theorem wellFormed_iff : WellFormed .between ws ↔
    (∀ word ∈ ws, Begun word) ∧ ws.Pairwise fun word _ => Closed word := by
  induction ws with
  | nil => exact iff_of_true rfl (by simp)
  | cons word ws ih =>
    cases ws with
    | nil => simp [WellFormed, Begun]
    | cons next ws =>
      rw [List.forall_mem_cons, List.pairwise_cons, WellFormed, ih]
      constructor
      · rintro ⟨closed, begun, later⟩
        exact ⟨⟨Closed.begun closed, begun⟩, fun _ _ => closed, later⟩
      · rintro ⟨⟨-, begun⟩, closed, later⟩
        exact ⟨closed next List.mem_cons_self, begun, later⟩

/-- Without some of its words, a list of words stays well-formed. -/
theorem WellFormed.sublist {fewer : List Text} (formed : WellFormed .between ws)
    (sub : fewer.Sublist ws) : WellFormed .between fewer := by
  rw [wellFormed_iff] at formed ⊢
  exact ⟨fun word mem => formed.1 word (sub.subset mem), formed.2.sublist sub⟩

/-- If what becomes of words are words again, and closed ones of closed ones, a list of words stays
well-formed. -/
theorem WellFormed.map {f : Text → Text} (formed : WellFormed .between ws)
    (begun : ∀ word, Begun word → Begun (f word))
    (closed : ∀ word, Closed word → Closed (f word)) : WellFormed .between (ws.map f) := by
  rw [wellFormed_iff] at formed ⊢
  refine ⟨?_, List.pairwise_map.mpr (formed.2.imp fun {word _} here => closed word here)⟩
  intro image mem
  obtain ⟨word, word_mem, rfl⟩ := List.mem_map.mp mem
  exact begun word (formed.1 word word_mem)

/-- Closed words in any number are well-formed. -/
theorem wellFormed_of_closed (closed : ∀ word ∈ ws, Closed word) : WellFormed .between ws := by
  rw [wellFormed_iff]
  refine ⟨fun word mem => (closed word mem).begun, ?_⟩
  exact List.pairwise_of_forall_mem_list fun word mem _ _ => closed word mem

/-! ## Texts in front of a line -/

/-- A text that begins with none of the characters that open a literal. -/
def StartsPlain (t : Text) : Prop := ∀ c ∈ t.head?, c ∉ ['"', '\'', '<']

/-- Whether a text starts with no delimiter can be computed. -/
instance : (t : Text) → Decidable (StartsPlain t)
  | [] => isTrue fun _ here => nomatch here
  | c :: _ => decidable_of_iff (c ∉ ['"', '\'', '<']) (by simp [StartsPlain])

/-- What starts with no delimiter starts as a word. -/
theorem opening_of_startsPlain (plain : StartsPlain (c :: t)) : Position.opening c = .inWord := by
  have none_opened := Delimiter.ofOpening?_eq_none_iff.mpr (plain c rfl)
  rw [Position.opening, none_opened]

/-- A character in front of the first piece leaves the others. -/
theorem consHead_eq (c : Char) (pieces : List Text) :
    ∃ first, Text.consHead c pieces = (c :: first) :: pieces.tail := by
  cases pieces with
  | nil => exact ⟨[], rfl⟩
  | cons first others => exact ⟨first, rfl⟩

/-- Inside a word there is always that word. -/
theorem wordsFrom_inWord_ne_nil (t : Text) : wordsFrom .inWord t ≠ [] := by
  intro none_left
  have formed := wellFormed_wordsFrom .inWord t
  rw [none_left] at formed
  cases formed

/-- **A text whose words open no literal can stand in front of a line.** -/
theorem words_append_blank (plain : ∀ word ∈ words t, StartsPlain word) (rest : Text) :
    words (t ++ ' ' :: rest) = words t ++ words rest := by
  -- Within a word, the first piece completes the word, so how that piece begins does not matter.
  suffices both : ((∀ word ∈ wordsFrom .between t, StartsPlain word) →
        wordsFrom .between (t ++ ' ' :: rest) = wordsFrom .between t ++ words rest) ∧
      ((∀ word ∈ (wordsFrom .inWord t).tail, StartsPlain word) →
        wordsFrom .inWord (t ++ ' ' :: rest) = wordsFrom .inWord t ++ words rest) from both.1 plain
  clear plain
  induction t with
  | nil => exact ⟨fun _ => rfl, fun _ => rfl⟩
  | cons c t ih =>
    obtain ⟨between, inWord⟩ := ih
    by_cases blank : isBlank c = true
    · simp only [List.cons_append, wordsFrom, if_pos blank, List.tail_cons]
      exact ⟨between, fun plain => by rw [between plain]⟩
    · have begins : Position.between.next? c = some (.opening c) := if_neg blank
      have continues : Position.inWord.next? c = some .inWord := if_neg blank
      simp only [List.cons_append, wordsFrom_cons_of_next? begins,
        wordsFrom_cons_of_next? continues]
      refine ⟨fun plain => ?_, fun plain => ?_⟩
      · obtain ⟨first, pieces⟩ := consHead_eq c (wordsFrom (.opening c) t)
        rw [pieces, List.forall_mem_cons] at plain
        rw [opening_of_startsPlain plain.1] at plain ⊢
        rw [inWord plain.2, Text.consHead_append (wordsFrom_inWord_ne_nil t)]
      · obtain ⟨first, pieces⟩ := consHead_eq c (wordsFrom .inWord t)
        rw [pieces, List.tail_cons] at plain
        rw [inWord plain, Text.consHead_append (wordsFrom_inWord_ne_nil t)]

/-! ## Where words occur -/

/-- A character in front of a line and of its first piece. -/
theorem occur_consHead {pieces : List Text} (all : ∀ word ∈ pieces, word <:+: t)
    (first : ∀ word ∈ pieces.head?, word <+: t) (c : Char) :
    (∀ word ∈ Text.consHead c pieces, word <:+: c :: t) ∧
      ∀ word ∈ (Text.consHead c pieces).head?, word <+: c :: t := by
  cases pieces with
  | nil =>
    have start : [c] <+: c :: t := ⟨t, rfl⟩
    exact ⟨List.forall_mem_singleton.mpr start.isInfix, fun word mem => by cases mem; exact start⟩
  | cons piece others =>
    have start : c :: piece <+: c :: t := List.cons_prefix_cons.mpr ⟨rfl, first piece rfl⟩
    rw [List.forall_mem_cons] at all
    refine ⟨List.forall_mem_cons.mpr ⟨start.isInfix, fun word mem => ?_⟩, fun word mem => ?_⟩
    · exact List.infix_cons (all.2 word mem)
    · cases mem
      exact start

/-- The pieces of the rest of a line occur in it. Inside a word, the first one begins it. -/
theorem occur_wordsFrom (p : Position) (t : Text) :
    (∀ word ∈ wordsFrom p t, word <:+: t) ∧
      (p ≠ .between → ∀ word ∈ (wordsFrom p t).head?, word <+: t) := by
  induction t generalizing p with
  | nil => cases p <;> simp [wordsFrom]
  | cons c t ih =>
    cases p with
    | between =>
      by_cases blank : isBlank c = true
      · rw [wordsFrom, if_pos blank]
        exact ⟨fun word mem => List.infix_cons ((ih .between).1 word mem),
          fun inside => absurd rfl inside⟩
      · obtain ⟨all, first⟩ := ih (.opening c)
        rw [wordsFrom, if_neg blank]
        exact ⟨(occur_consHead all (first (Position.opening_ne_between c)) c).1,
          fun inside => absurd rfl inside⟩
    | inWord =>
      by_cases blank : isBlank c = true
      · rw [wordsFrom, if_pos blank]
        refine ⟨List.forall_mem_cons.mpr ⟨List.nil_infix, fun word mem => ?_⟩, fun _ => by simp⟩
        exact List.infix_cons ((ih .between).1 word mem)
      · obtain ⟨all, first⟩ := ih .inWord
        obtain ⟨all, start⟩ := occur_consHead all (first (by simp)) c
        rw [wordsFrom, if_neg blank]
        exact ⟨all, fun _ => start⟩
    | inLiteral close =>
      obtain ⟨all, first⟩ := ih (if c = close then .inWord else .inLiteral close)
      obtain ⟨all, start⟩ := occur_consHead all (first (by split <;> simp)) c
      rw [wordsFrom]
      exact ⟨all, fun _ => start⟩

/-- **A word of a line occurs in the line.** -/
theorem infix_of_mem_words {word : Text} (mem : word ∈ words t) : word <:+: t :=
  (occur_wordsFrom .between t).1 word mem

end StepScript.Phrase
