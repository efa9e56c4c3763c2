import StepScript.Context
import StepScript.Program

/-!
# Setting tables in place

The calls that set tables of a context, as programs on the context: the payload is read, and then
the parts of the context are written one after the other, each from what the parts before have
become. `Context.setKeywords` and its kin say at once what these programs come to.
-/

namespace StepScript.Context.InPlace

/-- Puts a vocabulary in place, builds a grammar on it, and derives every step anew. -/
def publish (v : Vocabulary) : Program Context Failure Unit := do
  modify fun c => { c with vocabulary := v }
  modify fun c => { c with grammar := ⟨c.vocabulary⟩ }
  modify fun c => { c with catalog := c.catalog.relabelAll c.vocabulary }

/-- Replaces the host's keywords. -/
def setKeywords (payload : Text) : Program Context Failure Unit := do
  let phrases ← readPayload .keywords (Json.Decoder.list Json.Decoder.string) payload
  modify fun c => { c with hostKeywords := phrases }
  let c ← get
  publish (c.vocabulary.withKeywords (c.hostKeywords ++ c.builtinKeywords))

/-- Adds elements, or replaces them all if `clear`. -/
def setElements (payload : Text) (clear : Bool) : Program Context Failure Unit := do
  let pairs ← readPayload .elementTable tableDecoder payload
  publish ((← get).vocabulary.withElements pairs clear)

/-- Adds variables, or replaces them all if `clear`. -/
def setVariables (payload : Text) (clear : Bool) : Program Context Failure Unit := do
  let pairs ← readPayload .variableTable tableDecoder payload
  publish ((← get).vocabulary.withVariables pairs clear)

/-- Loads steps, after dropping the present ones if `clear`. -/
def setStepList (payload : Text) (clear : Bool) : Program Context Failure Unit := do
  let entries ← readPayload .stepList (Json.Decoder.list StepEntry.decoder) payload
  modify fun c => { c with catalog := c.catalog.extend entries clear c.vocabulary }
  modify fun c => { c with catalog := c.catalog.relabelAll c.vocabulary }

/-- Sets the message for unknown steps. -/
def setSyntaxMessage (message : Text) : Program Context Failure Unit := do
  modify fun c => { c with vocabulary := c.vocabulary.withSyntaxMessage message }
  modify fun c => { c with grammar := ⟨c.vocabulary⟩ }

end StepScript.Context.InPlace
