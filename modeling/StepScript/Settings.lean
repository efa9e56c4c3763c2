import StepScript.Json.Decode

/-!
# Settings

The configuration of an editor: two delays, the keywords that are always there, and the payloads
with which it starts. Every setting has a default, and unknown settings are skipped, so that hosts
can keep their own settings in the same place. The payloads are kept as values; whether they have
the right form shows when they are applied.
-/

namespace StepScript

/-- The configuration of an editor. -/
structure Settings where
  /-- How long toggled breakpoints are gathered before they are reported, in milliseconds. -/
  reportDelay : Nat
  /-- How long a changed document rests before it is checked again, in milliseconds. -/
  diagnosticsDelay : Nat
  /-- The keywords that are there whatever the host sets. -/
  builtinKeywords : List Text
  keywords : Option Json.Value
  elementTable : Option Json.Value
  variableTable : Option Json.Value
  steps : Option Json.Value
  syntaxMessage : Option Text

namespace Settings

/-- The settings when nothing is configured. -/
def default : Settings where
  reportDelay := 100
  diagnosticsDelay := 300
  builtinKeywords := ["if".toList]
  keywords := none
  elementTable := none
  variableTable := none
  steps := none
  syntaxMessage := none

instance : Inhabited Settings := ⟨default⟩

/-- The settings that a tree writes. -/
def decoder : Json.Decoder Settings := fun depth tree => do
  let names := ["reportDelayMs", "diagnosticsDelayMs", "builtinKeywords", "keywords", "elements",
    "variables", "steps", "syntaxMessage"]
  let (inner, fields) ← Json.Decoder.fields? names depth tree
  match fields with
  | [report, diagnostics, builtin, keywords, elementValues, variableValues, steps, message] =>
    let delay := Json.Decoder.below (Json.twoTo 64)
    let payload := Json.Decoder.withDefault (Json.Decoder.optional Json.Decoder.value) none inner
    some {
      reportDelay := ← Json.Decoder.withDefault delay default.reportDelay inner report
      diagnosticsDelay := ← Json.Decoder.withDefault delay default.diagnosticsDelay inner diagnostics
      builtinKeywords := ← Json.Decoder.withDefault (Json.Decoder.list Json.Decoder.string)
        default.builtinKeywords inner builtin
      keywords := ← payload keywords
      elementTable := ← payload elementValues
      variableTable := ← payload variableValues
      steps := ← payload steps
      syntaxMessage := ← Json.Decoder.withDefault (Json.Decoder.optional Json.Decoder.string) none
        inner message }
  | _ => none

end Settings

end StepScript
