import Mathlib
import StepScript.Step
import StepScript.Proofs.Phrase.Words
import StepScript.Proofs.Vocabulary.Keywords

/-!
# What filling placeholders in leaves as it is

**Plain vocabularies.** In a plain vocabulary no keyword begins like a literal, and no value holds a
delimiter (`Vocabulary.Plain`). A word whose placeholder is filled in under such a vocabulary is one
closed word and a placeholder again (`Vocabulary.Plain.substitute_cases`), and every other word
stays as it is.

**Keys.** So the words of a phrase begin with the same keyword before and after filling in, and the
words that make the key are the same (`Vocabulary.Plain.stepKey_spoken`): the key depends neither on
the values nor on the letter case of the keyword.
-/

namespace StepScript

/-! ## Words that are placeholders -/

/-- A text without delimiters of literals. -/
def FreeOfDelimiters (t : Text) : Prop := ∀ c ∈ t, c ∉ ['"', '\'', '<', '>']

/-- Whether a text is free of delimiters can be computed. -/
instance (t : Text) : Decidable (FreeOfDelimiters t) :=
  List.decidableBAll (fun c => c ∉ ['"', '\'', '<', '>']) t

/-- A text that is free of delimiters has neither character of any of them. -/
theorem FreeOfDelimiters.not_mem {t : Text} (free : FreeOfDelimiters t) (d : Delimiter) :
    d.opening ∉ t ∧ d.closing ∉ t := by
  constructor
  · intro mem
    exact free _ mem (by cases d <;> decide)
  · intro mem
    exact free _ mem (by cases d <;> decide)

namespace Placeholder

variable {p : Placeholder} {word : Text}

/-- A word that is a placeholder is its name between its delimiters. -/
theorem toWord_of_ofWord?_eq_some (h : ofWord? word = some p) : p.toWord = word := by
  cases word with
  | nil => cases h
  | cons c rest =>
    rw [ofWord?] at h
    split at h
    · cases h
    · rename_i d opened
      split at h
      · rename_i literal
        cases h
        obtain rfl := Delimiter.opening_of_ofOpening? opened
        rw [toWord, List.cons_append, List.dropLast_append_getLast? _ literal.1]
      · cases h

/-- A name without the opening delimiter is the name of the word that it makes. -/
theorem ofWord?_toWord (single : p.delimiter.opening ∉ p.name) : ofWord? p.toWord = some p := by
  obtain ⟨d, name⟩ := p
  rw [toWord, List.cons_append, ofWord?, Delimiter.ofOpening?_opening]
  dsimp only
  rw [List.dropLast_concat, if_pos ⟨by simp, single⟩]

/-- A name without the closing delimiter makes a closed word. -/
theorem closed_toWord (inside : p.delimiter.closing ∉ p.name) : Phrase.Closed p.toWord := by
  have begins : Phrase.Position.between.next? p.delimiter.opening =
      some (.inLiteral p.delimiter.closing) := by
    cases p.delimiter <;> decide
  rw [Phrase.Closed, toWord, List.cons_append, Phrase.Position.through?_cons begins,
    Phrase.Position.through?_append (Phrase.Position.through?_inLiteral inside)]
  simp [Phrase.Position.through?, Phrase.Position.next?]

/-- In lower case a placeholder still begins with its delimiter. -/
theorem not_startsPlain_lower_toWord (p : Placeholder) : ¬ Phrase.StartsPlain p.toWord.lower := by
  obtain ⟨d, name⟩ := p
  intro plain
  refine plain d.opening ?_ (by cases d <;> decide)
  cases d <;> rfl

end Placeholder

/-- A word whose lower case begins plainly begins plainly. -/
theorem Phrase.startsPlain_of_lower {word : Text} (plain : StartsPlain word.lower) :
    StartsPlain word := by
  cases word with
  | nil => exact plain
  | cons first rest =>
    intro c here
    obtain rfl := Option.some.inj here
    rw [← Delimiter.ofOpening?_eq_none_iff]
    cases opened : Delimiter.ofOpening? first with
    | none => rfl
    | some d =>
      obtain rfl := Delimiter.opening_of_ofOpening? opened
      refine absurd (plain d.opening ?_) (by cases d <;> decide)
      cases d <;> rfl

namespace Vocabulary

/-- A vocabulary in which no word of a keyword begins with a character that opens a literal, and no
value holds a delimiter. -/
structure Plain (v : Vocabulary) : Prop where
  keywords : ∀ phrase ∈ v.keywords, ∀ word ∈ phrase, Phrase.StartsPlain word
  elementTable : ∀ value ∈ v.elementTable.values, FreeOfDelimiters value
  variableTable : ∀ x ∈ v.variableTable.values, FreeOfDelimiters x.value

/-- Whether the keywords and the values of a vocabulary are plain can be computed. -/
instance (v : Vocabulary) : Decidable v.Plain :=
  decidable_of_iff ((∀ phrase ∈ v.keywords, ∀ word ∈ phrase, Phrase.StartsPlain word) ∧
      (∀ value ∈ v.elementTable.values, FreeOfDelimiters value) ∧
      ∀ x ∈ v.variableTable.values, FreeOfDelimiters x.value)
    ⟨fun h => ⟨h.1, h.2.1, h.2.2⟩, fun h => ⟨h.keywords, h.elementTable, h.variableTable⟩⟩

variable {v : Vocabulary} {word name value : Text} {words : List Text}

/-! ## Filling in -/

/-- The values of placeholders are those of the tables. -/
theorem Plain.free_of_substitution? (plain : v.Plain) (h : v.substitution? name = some value) :
    FreeOfDelimiters value := by
  rw [substitution?, Option.or_eq_some_iff] at h
  rcases h with element | ⟨-, variable_value⟩
  · exact plain.elementTable value (Table.mem_values_iff.mpr ⟨_, element⟩)
  · obtain ⟨x, found, rfl⟩ := Option.map_eq_some_iff.mp variable_value
    exact plain.variableTable x (Table.mem_values_iff.mpr ⟨_, found⟩)

/-- A word stays as it is, or is a placeholder and gets a value without delimiters. -/
theorem Plain.substitute_cases (plain : v.Plain) (word : Text) :
    v.substitute word = word ∨ ∃ p value, Placeholder.ofWord? word = some p ∧
      FreeOfDelimiters value ∧ v.substitute word = Placeholder.toWord ⟨p.delimiter, value⟩ := by
  unfold substitute
  split
  · exact .inl rfl
  · rename_i p is_placeholder
    split
    · exact .inl rfl
    · rename_i value given
      exact .inr ⟨p, value, is_placeholder, plain.free_of_substitution? given, rfl⟩

/-- A word that is no placeholder stays as it is. -/
theorem substitute_of_ofWord?_eq_none (h : Placeholder.ofWord? word = none) :
    v.substitute word = word := by
  rw [substitute, h]

/-- A word that is filled in is closed. -/
theorem Plain.closed_substitute (plain : v.Plain) (word : Text) :
    v.substitute word = word ∨ Phrase.Closed (v.substitute word) := by
  rcases plain.substitute_cases word with same | ⟨p, value, -, free, filled⟩
  · exact .inl same
  · rw [filled]
    exact .inr (Placeholder.closed_toWord (free.not_mem p.delimiter).2)

/-- Filling in keeps words apart. -/
theorem Plain.wellFormed_map_substitute (plain : v.Plain)
    (formed : Phrase.WellFormed .between words) :
    Phrase.WellFormed .between (words.map v.substitute) := by
  refine formed.map (fun word begun => ?_) (fun word closed => ?_)
  · rcases plain.closed_substitute word with same | closed
    · rwa [same]
    · exact closed.begun
  · rcases plain.closed_substitute word with same | closed
    · rwa [same]
    · exact closed

/-- Placeholders stay placeholders, and no other word becomes one. -/
theorem Plain.isNone_ofWord?_substitute (plain : v.Plain) (word : Text) :
    (Placeholder.ofWord? (v.substitute word)).isNone = (Placeholder.ofWord? word).isNone := by
  rcases plain.substitute_cases word with same | ⟨p, value, is_placeholder, free, filled⟩
  · rw [same]
  · rw [filled, is_placeholder, Placeholder.ofWord?_toWord (free.not_mem p.delimiter).1]
    rfl

/-- The words that are no placeholders are the same before and after filling in. -/
theorem Plain.filter_map_substitute (plain : v.Plain) (words : List Text) :
    (words.map v.substitute).filter (fun w => (Placeholder.ofWord? w).isNone) =
      words.filter fun w => (Placeholder.ofWord? w).isNone := by
  induction words with
  | nil => rfl
  | cons word words ih =>
    rw [List.map_cons, List.filter_cons, List.filter_cons, plain.isNone_ofWord?_substitute, ih]
    split
    · rename_i no_placeholder
      rw [substitute_of_ofWord?_eq_none (Option.isNone_iff_eq_none.mp no_placeholder)]
    · rfl

/-! ## The leading keyword -/

/-- No keyword begins where a placeholder stands, whatever its value is. -/
theorem Plain.lower_substitute_eq_iff (plain : v.Plain) {target : Text}
    (starts : Phrase.StartsPlain target) (word : Text) :
    (v.substitute word).lower = target ↔ word.lower = target := by
  rcases plain.substitute_cases word with same | ⟨p, value, is_placeholder, -, filled⟩
  · rw [same]
  · have no_keyword : ∀ q : Placeholder, q.toWord.lower ≠ target := by
      rintro q rfl
      exact q.not_startsPlain_lower_toWord starts
    rw [filled, ← Placeholder.toWord_of_ofWord?_eq_some is_placeholder]
    exact iff_of_false (no_keyword _) (no_keyword p)

/-- A keyword is in front of words before and after filling in. -/
theorem Plain.isPrefixOf_map_substitute (plain : v.Plain) {phrase : List Text}
    (starts : ∀ word ∈ phrase, Phrase.StartsPlain word) (words : List Text) :
    phrase.isPrefixOf ((words.map v.substitute).map Text.lower) =
      phrase.isPrefixOf (words.map Text.lower) := by
  induction phrase generalizing words with
  | nil => rfl
  | cons target phrase ih =>
    rw [List.forall_mem_cons] at starts
    cases words with
    | nil => rfl
    | cons word words =>
      have first : (target == (v.substitute word).lower) = (target == word.lower) := by
        rw [Bool.eq_iff_iff, beq_iff_eq, beq_iff_eq, eq_comm, plain.lower_substitute_eq_iff starts.1,
          eq_comm]
      simp only [List.map_cons, List.isPrefixOf, first, ih starts.2]

/-- Filling placeholders in does not change the leading keyword. -/
theorem Plain.keywordLength_map_substitute (plain : v.Plain) (words : List Text) :
    v.keywordLength (words.map v.substitute) = v.keywordLength words := by
  have same : v.keywords.find? (·.isPrefixOf ((words.map v.substitute).map Text.lower)) =
      v.keywords.find? (·.isPrefixOf (words.map Text.lower)) :=
    List.find?_congr fun phrase mem =>
      plain.isPrefixOf_map_substitute (plain.keywords phrase mem) words
  rw [keywordLength, keywordLength, matchKeyword?, matchKeyword?, same]

/-- **A phrase is looked up as it is shown.** Spoken words for its keyword, in any letter case, and
the rest of the phrase with its placeholders filled in have the key of the phrase. -/
theorem Plain.stepKey_spoken (plain : v.Plain) {head spoken : List Text}
    (same : spoken.map Text.lower = ((head.map v.substitute).take
      (v.keywordLength (head.map v.substitute))).map Text.lower) :
    v.stepKey (spoken ++ (head.map v.substitute).drop
      (v.keywordLength (head.map v.substitute))) = v.stepKey head := by
  set filled := head.map v.substitute with filled_eq
  set n := v.keywordLength filled
  have head_length : v.keywordLength head = n := (plain.keywordLength_map_substitute head).symm
  have lowered : (spoken ++ filled.drop n).map Text.lower = filled.map Text.lower := by
    rw [List.map_append, same, ← List.map_append, List.take_append_drop]
  have spoken_length : spoken.length = n := by
    have lengths := congrArg List.length same
    rwa [List.length_map, List.length_map, List.length_take,
      Nat.min_eq_left (take_keywordLength v filled).2] at lengths
  rw [stepKey, stepKey, keywordLength_congr lowered, head_length, List.drop_left' spoken_length,
    filled_eq, ← List.map_drop, plain.filter_map_substitute]

/-! ## Keywords as texts -/

/-- A word that begins plainly and holds no blank is closed. -/
theorem closed_of_startsPlain (nonempty : word ≠ []) (starts : Phrase.StartsPlain word)
    (unbroken : ∀ c ∈ word, isBlank c = false) : Phrase.Closed word := by
  cases word with
  | nil => exact absurd rfl nonempty
  | cons c rest =>
    rw [List.forall_mem_cons] at unbroken
    have begins : Phrase.Position.between.next? c = some .inWord := by
      rw [Phrase.Position.next?, unbroken.1, Phrase.opening_of_startsPlain starts]
      rfl
    rw [Phrase.Closed, Phrase.Position.through?_cons begins,
      Phrase.Position.through?_inWord unbroken.2]

/-- The words of a leading keyword, in lower case, are those of a phrase of the table. -/
theorem exists_keyword_of_mem_take
    (mem : word ∈ (words.take (v.keywordLength words)).map Text.lower) :
    ∃ keyword ∈ v.keywords, word ∈ keyword := by
  rcases (take_keywordLength v words).1 with none_leading | leading
  · rw [none_leading] at mem
    cases mem
  · exact ⟨_, leading, mem⟩

/-- The words of a leading keyword are those of its text. -/
theorem IsKeywordTable.words_unwords {phrases : List Text}
    (table : IsKeywordTable phrases v.keywords) (plain : v.Plain) (words : List Text) :
    Phrase.words (Text.unwords ((words.take (v.keywordLength words)).map Text.lower)) =
      (words.take (v.keywordLength words)).map Text.lower := by
  refine Phrase.words_unwords (Phrase.wellFormed_of_closed fun word mem => ?_)
  obtain ⟨keyword, in_table, mem⟩ := exists_keyword_of_mem_take mem
  have starts := plain.keywords keyword in_table word mem
  obtain ⟨phrase, -, rfl⟩ := List.mem_map.mp ((table.mem_iff keyword).mp in_table).1
  rw [foldedWords, Text.words, List.mem_filter, decide_eq_true_eq] at mem
  exact closed_of_startsPlain mem.2 starts (Text.not_sep_of_mem_pieces mem.1)

end Vocabulary

end StepScript
