import Mathlib
import StepScript.Proofs.Catalog.Latest
import StepScript.Proofs.Context.InPlace
import StepScript.Proofs.Vocabulary.Keywords

/-!
# A context is always coherent

**What coherence says.** All that a context holds can be told from its built-in keywords and the
changes that were accepted (`Context.Coherent`): its keyword table is that of the host's last list
and the built-in keywords, its other tables give each name the value written last since they were
cleared, and grammar and catalog belong to the present vocabulary.

**Why it holds.** The keyword table is made from the two lists anew each time. The other tables are
written in order, so the question is only which pair comes last (`Vocabulary.find?_withElements`).
Whatever changes the vocabulary publishes it, and publishing builds the grammar and derives every
step anew; the syntax message is the one exception, and no key and no label depends on that. So each
change keeps a context coherent (`Context.Sound.apply`), and with it each run
(`Context.run_coherent`).
-/

namespace StepScript

/-! ## Tables that are written in order -/

/-- The last of the pairs whose name is `name` in lower case. -/
def lastPair (pairs : List (Text × Text)) (name : Text) : Option (Text × Text) :=
  (pairs.filter (·.1.lower == name)).getLast?

/-- Pairs that are written later come first. -/
theorem lastPair_append (before pairs : List (Text × Text)) (name : Text) :
    lastPair (before ++ pairs) name = (lastPair pairs name).or (lastPair before name) := by
  rw [lastPair, List.filter_append, List.getLast?_append]
  rfl

/-- A name has the value that was written to it last, if any was, and else the one it had. -/
theorem Table.find?_insertAll_lower {α : Type} (table : Table α) (pairs : List (Text × Text))
    (value : Text × Text → α) (name : Text) :
    (table.insertAll (pairs.map fun p => (p.1.lower, value p))).find? name =
      ((lastPair pairs name).map value).or (table.find? name) := by
  rw [Table.find?_insertAll, List.filter_map, List.getLast?_map, Option.map_map]
  rfl

namespace Vocabulary

variable (v : Vocabulary) (pairs : List (Text × Text)) (clear : Bool) (name : Text)

/-- The element of a name after pairs were written. -/
theorem find?_withElements : (v.withElements pairs clear).elementTable.find? name =
    ((lastPair pairs name).map Prod.snd).or
      (if clear then none else v.elementTable.find? name) := by
  rw [withElements]
  dsimp only
  rw [Table.find?_insertAll_lower]
  cases clear <;> rfl

/-- The variable of a name after pairs were written. -/
theorem find?_withVariables : (v.withVariables pairs clear).variableTable.find? name =
    ((lastPair pairs name).map fun p => ⟨p.1, p.2⟩).or
      (if clear then none else v.variableTable.find? name) := by
  rw [withVariables]
  dsimp only
  rw [Table.find?_insertAll_lower]
  cases clear <;> rfl

end Vocabulary

namespace Context

/-! ## What the accepted changes say -/

/-- The host's keywords, if a change sets them. -/
def Change.keywords? : Change → Option (List Text)
  | .keywords phrases => some phrases
  | _ => none

/-- The elements that a change writes, and whether it drops the present ones first. -/
def Change.elements? : Change → Option (List (Text × Text) × Bool)
  | .elementTable pairs clear => some (pairs, clear)
  | _ => none

/-- The variables that a change writes, and whether it drops the present ones first. -/
def Change.variables? : Change → Option (List (Text × Text) × Bool)
  | .variableTable pairs clear => some (pairs, clear)
  | _ => none

/-- The host's last list of keywords; empty while there was none. -/
def lastKeywords (history : List Change) : List Text :=
  ((history.filterMap Change.keywords?).getLast?).getD []

/-- The pairs that changes have written into a table since it was last cleared, in order. -/
def written (writes : Change → Option (List (Text × Text) × Bool)) (history : List Change) :
    List (Text × Text) :=
  history.foldl (fun before change =>
    match writes change with
    | some (pairs, clear) => (if clear then [] else before) ++ pairs
    | none => before) []

/-- **Coherence.** What a context holds after the changes of a history. -/
structure Coherent (c : Context) (builtin : List Text) (history : List Change) : Prop where
  /-- The grammar is built on the present vocabulary. -/
  grammar : c.grammar.vocabulary = c.vocabulary
  /-- The keywords are the host's last list and then those that are built in. -/
  keywords : Vocabulary.IsKeywordTable (lastKeywords history ++ builtin) c.vocabulary.keywords
  /-- Each name has the element that was written last. -/
  elementTable : ∀ name, c.vocabulary.elementTable.find? name =
    (lastPair (written Change.elements? history) name).map Prod.snd
  /-- Each name has the variable that was written last. -/
  variableTable : ∀ name, c.vocabulary.variableTable.find? name =
    (lastPair (written Change.variables? history) name).map fun p => ⟨p.1, p.2⟩
  /-- Each step is stored under its key, and its key, keyword, label and insert text are derived
  under the present vocabulary. -/
  catalog : c.catalog.DerivedUnder c.vocabulary

/-- What every change keeps: coherence, the built-in keywords, and what is known of the steps. -/
structure Sound (c : Context) (builtin : List Text) (history : List Change) : Prop
    extends Coherent c builtin history where
  builtinKeywords : c.builtinKeywords = builtin
  numbered : c.catalog.Numbered
  isRead : ∀ s ∈ c.catalog.steps.values, s.IsRead

variable {c : Context} {builtin : List Text} {history : List Change}

/-- A change that sets no keywords leaves the last list. -/
theorem lastKeywords_append (history : List Change) (change : Change) :
    lastKeywords (history ++ [change]) = change.keywords?.getD (lastKeywords history) := by
  rw [lastKeywords, List.filterMap_append, List.getLast?_append, List.filterMap_cons]
  cases change.keywords? <;> rfl

section Written

variable {writes : Change → Option (List (Text × Text) × Bool)} {change : Change}

/-- A change of other tables writes nothing. -/
theorem written_append_of_eq_none (history : List Change) (silent : writes change = none) :
    written writes (history ++ [change]) = written writes history := by
  rw [written, List.foldl_append, List.foldl_cons, silent]
  rfl

/-- A change of a table comes last in it. -/
theorem lastPair_written_append {pairs : List (Text × Text)} {clear : Bool}
    (history : List Change) (writing : writes change = some (pairs, clear)) (name : Text) :
    lastPair (written writes (history ++ [change])) name =
      (lastPair pairs name).or
        (if clear then none else lastPair (written writes history) name) := by
  have all : written writes (history ++ [change]) =
      (if clear then [] else written writes history) ++ pairs := by
    rw [written, List.foldl_append, List.foldl_cons, writing]
    rfl
  rw [all, lastPair_append]
  cases clear <;> rfl

end Written

/-! ## Every change keeps a context coherent -/

/-- A context with its built-in keywords alone is sound. -/
theorem sound_ofKeywords (builtin : List Text) : (ofKeywords builtin).Sound builtin [] where
  grammar := rfl
  keywords := Vocabulary.isKeywordTable_keywordTable builtin
  elementTable _ := rfl
  variableTable _ := rfl
  catalog := Catalog.derivedUnder_empty _ 0
  builtinKeywords := rfl
  numbered := Catalog.numbered_empty 0
  isRead _ mem := (List.not_mem_nil mem).elim

/-- **Every change keeps a context sound.** -/
theorem Sound.apply (sound : c.Sound builtin history) (change : Change) :
    (c.apply change).Sound builtin (history ++ [change]) := by
  -- A table that the change does not write is what the history says with the change as without.
  have same_keywords (silent : change.keywords? = none) :
      Vocabulary.IsKeywordTable (lastKeywords (history ++ [change]) ++ builtin)
        c.vocabulary.keywords := by
    rw [lastKeywords_append, silent]
    exact sound.keywords
  have same_elements (silent : change.elements? = none) (name : Text) :
      c.vocabulary.elementTable.find? name =
        (lastPair (written Change.elements? (history ++ [change])) name).map Prod.snd := by
    rw [written_append_of_eq_none history silent, sound.elementTable]
  have same_variables (silent : change.variables? = none) (name : Text) :
      c.vocabulary.variableTable.find? name =
        (lastPair (written Change.variables? (history ++ [change])) name).map
          fun p => ⟨p.1, p.2⟩ := by
    rw [written_append_of_eq_none history silent, sound.variableTable]
  have relabelled : ∀ v, (c.catalog.relabelAll v).DerivedUnder v :=
    Catalog.derivedUnder_relabelAll c.catalog
  have renumbered : ∀ v, (c.catalog.relabelAll v).Numbered :=
    Catalog.numbered_relabelAll sound.numbered
  have reread : ∀ v, ∀ s ∈ (c.catalog.relabelAll v).steps.values, s.IsRead := fun v =>
    Catalog.forall_mem_relabelAll sound.numbered sound.isRead fun _ read => read
  cases change with
  | keywords phrases =>
    refine ⟨⟨rfl, ?_, same_elements rfl, same_variables rfl, relabelled _⟩, sound.builtinKeywords,
      renumbered _, reread _⟩
    rw [lastKeywords_append, ← sound.builtinKeywords]
    exact Vocabulary.isKeywordTable_keywordTable _
  | elementTable pairs clear =>
    refine ⟨⟨rfl, same_keywords rfl, fun name => ?_, same_variables rfl, relabelled _⟩,
      sound.builtinKeywords, renumbered _, reread _⟩
    change (c.vocabulary.withElements pairs clear).elementTable.find? name = _
    rw [Vocabulary.find?_withElements, lastPair_written_append history rfl, Option.map_or,
      sound.elementTable]
    cases clear <;> rfl
  | variableTable pairs clear =>
    refine ⟨⟨rfl, same_keywords rfl, same_elements rfl, fun name => ?_, relabelled _⟩,
      sound.builtinKeywords, renumbered _, reread _⟩
    change (c.vocabulary.withVariables pairs clear).variableTable.find? name = _
    rw [Vocabulary.find?_withVariables, lastPair_written_append history rfl, Option.map_or,
      sound.variableTable]
    cases clear <;> rfl
  | steps entries clear =>
    have extended := Catalog.keepsLatest_extend sound.catalog sound.numbered entries clear
    have read : ∀ s ∈ (c.catalog.extend entries clear c.vocabulary).steps.values, s.IsRead := by
      intro s mem
      rcases Catalog.mem_offered ((extended.mem_iff s).mp mem).1 with old | ⟨entry, order, made⟩
      · exact sound.isRead s old
      · exact Step.isRead_of_ofEntry?_eq_some made
    exact ⟨⟨sound.grammar, same_keywords rfl, same_elements rfl, same_variables rfl,
      Catalog.derivedUnder_relabelAll _ _⟩, sound.builtinKeywords,
      Catalog.numbered_relabelAll extended.numbered _,
      Catalog.forall_mem_relabelAll extended.numbered read fun _ read => read⟩
  | syntaxMessage message =>
    -- The message is no part of what keys and labels are derived from.
    exact ⟨⟨rfl, same_keywords rfl, same_elements rfl, same_variables rfl, sound.catalog⟩,
      sound.builtinKeywords, sound.numbered, sound.isRead⟩

/-- Changes in order keep a context sound. -/
theorem Sound.foldl_apply (sound : c.Sound builtin history) (changes : List Change) :
    (changes.foldl Context.apply c).Sound builtin (history ++ changes) := by
  induction changes generalizing c history with
  | nil => rwa [List.append_nil]
  | cons change changes ih =>
    have rest := ih (sound.apply change)
    rwa [List.append_assoc] at rest

/-- A run keeps a context sound, of whatever calls it consists. -/
theorem sound_run {start : Context} {opening : List Call} (opens : start.Opens builtin opening)
    (calls : List Call) :
    (start.run calls).Sound builtin ((opening ++ calls).filterMap Call.change?) := by
  rw [opens.run_eq, run_eq_foldl_apply]
  exact (sound_ofKeywords builtin).foldl_apply _

/-- A reachable context is sound. -/
theorem Reachable.exists_sound (reachable : c.Reachable) :
    ∃ builtin history, c.Sound builtin history := by
  obtain ⟨start, builtin, opening, calls, opens, rfl⟩ := reachable
  exact ⟨builtin, _, sound_run opens calls⟩

/-- Settings with a keyword and an element. -/
def openingSettings : Settings :=
  { Settings.default with
    keywords := some (.array [.string "Given".toList])
    elementTable := some (.object [("Page".toList, .string "Home".toList)]) }

/-- The context of these settings. -/
def opened : Context := (ofKeywords openingSettings.builtinKeywords).run openingSettings.calls

end Context

end StepScript
