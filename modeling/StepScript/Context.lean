import StepScript.Catalog
import StepScript.Failure
import StepScript.Grammar
import StepScript.Settings

/-!
# Contexts: the tables of one editor

**Coherence.** A context holds a vocabulary, the grammar built on it, the catalog derived under it,
and the keyword lists from which its keyword table is made: those that are built in and those that
the host sent last. A change of keywords, elements or variables builds a new grammar and derives
every step anew (`publish`), so that both always belong to the present vocabulary.

**All or nothing.** A payload is read as a whole before anything changes; one that is malformed
leaves the context as it is.
-/

namespace StepScript

/-- The tables of one editor. -/
structure Context where
  vocabulary : Vocabulary
  /-- The reader of scripts, built on the vocabulary. -/
  grammar : Grammar
  catalog : Catalog
  /-- The keywords that are always there. -/
  builtinKeywords : List Text
  /-- The keywords that the host sent last. -/
  hostKeywords : List Text

/-- The entries of a table, in the order of their names. -/
def tableDecoder : Json.Decoder (List (Text × Text)) := fun depth tree =>
  match tree, Json.Value.ofTree? depth tree with
  | .object _, some (.object members) => some (members.map fun m => (m.1, m.2.asText))
  | _, _ => none

/-- Reads a payload, or refuses it as malformed. -/
def readPayload {α : Type} (subject : Subject) (decoder : Json.Decoder α) (payload : Text) :
    Except Failure α :=
  match Json.Decoder.decode? decoder payload with
  | some a => .ok a
  | none => .error (.malformed subject)

namespace Context

/-- The context with only the given keywords. -/
def ofKeywords (builtin : List Text) : Context :=
  let v := Vocabulary.empty.withKeywords builtin
  ⟨v, ⟨v⟩, .empty, builtin, []⟩

instance : Inhabited Context := ⟨ofKeywords []⟩

/-- The context with another vocabulary, a grammar built on it and every step derived anew. -/
def publish (c : Context) (v : Vocabulary) : Context :=
  { c with vocabulary := v, grammar := ⟨v⟩, catalog := c.catalog.relabelAll v }

/-- Replaces the host's keywords. They come before the ones that are built in. -/
def setKeywords (c : Context) (payload : Text) : Except Failure Context := do
  let phrases ← readPayload .keywords (Json.Decoder.list Json.Decoder.string) payload
  let c := { c with hostKeywords := phrases }
  return c.publish (c.vocabulary.withKeywords (phrases ++ c.builtinKeywords))

/-- Adds elements, or replaces them all if `clear`. -/
def setElements (c : Context) (payload : Text) (clear : Bool) : Except Failure Context := do
  let pairs ← readPayload .elementTable tableDecoder payload
  return c.publish (c.vocabulary.withElements pairs clear)

/-- Adds variables, or replaces them all if `clear`. -/
def setVariables (c : Context) (payload : Text) (clear : Bool) : Except Failure Context := do
  let pairs ← readPayload .variableTable tableDecoder payload
  return c.publish (c.vocabulary.withVariables pairs clear)

/-- Loads steps, after dropping the present ones if `clear`. -/
def setStepList (c : Context) (payload : Text) (clear : Bool) : Except Failure Context := do
  let entries ← readPayload .stepList (Json.Decoder.list StepEntry.decoder) payload
  let extended := c.catalog.extend entries clear c.vocabulary
  return { c with catalog := extended.relabelAll c.vocabulary }

/-- Sets the message for unknown steps. No label depends on it. -/
def setSyntaxMessage (c : Context) (message : Text) : Context :=
  let v := c.vocabulary.withSyntaxMessage message
  { c with vocabulary := v, grammar := ⟨v⟩ }

/-- Applies a change for a payload that may be absent. -/
def applyPayload (c : Context) (payload : Option Json.Value)
    (change : Context → Text → Except Failure Context) : Except Failure Context :=
  match payload with
  | some v => change c v.compact
  | none => .ok c

/-- The context that settings describe. -/
def ofSettings (s : Settings) : Except Failure Context := do
  let c := ofKeywords s.builtinKeywords
  let c ← c.applyPayload s.keywords setKeywords
  let c ← c.applyPayload s.elementTable (setElements · · true)
  let c ← c.applyPayload s.variableTable (setVariables · · true)
  let c := match s.syntaxMessage with
    | some message => c.setSyntaxMessage message
    | none => c
  c.applyPayload s.steps (setStepList · · true)

/-! ## Questions about scripts -/

/-- The tokens of a document. -/
def tokenize (c : Context) (document : Text) : List LineTokens := c.grammar.tokenize document

/-- The lines of a document whose step is unknown. -/
def check (c : Context) (document : Text) : List Problem := c.catalog.check document c.vocabulary

/-- The step that a script line names. -/
def stepForLine? (c : Context) (line : Text) : Option Step :=
  c.catalog.stepForLine? line c.vocabulary

/-- The steps that the text typed so far on a line leads to. -/
def suggest (c : Context) (typed : Text) : List Step := c.catalog.suggest typed c.vocabulary

end Context

end StepScript
