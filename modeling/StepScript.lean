import StepScript.Main
import StepScript.Proofs.Bridge.Refusal
import StepScript.Proofs.Bridge.Window
import StepScript.Proofs.Context.LoadOrder
import StepScript.Proofs.Context.Lookup
import StepScript.Proofs.Editor.Interference
import StepScript.Proofs.Editor.Session
import StepScript.Proofs.Grammar.Independence
import StepScript.Proofs.LanguageServer.SemanticTokens
import StepScript.Proofs.Document.Reading
import StepScript.Proofs.Editor.Numbering
import StepScript.Proofs.Character.Classes
import StepScript.Proofs.Phrase.LeadingWords
import StepScript.Proofs.Phrase.Ink
import StepScript.Proofs.LanguageServer.Completion
import StepScript.Proofs.Catalog.Check
import StepScript.Proofs.LanguageServer.Timers
import StepScript.Proofs.LanguageServer.Diagnostics
import StepScript.Proofs.Json.RoundTrip
import StepScript.Proofs.Marker.Toggle
import StepScript.Proofs.Marker.Store
import StepScript.Proofs.Marker.Canonical
import StepScript.Proofs.Editor.Drift
import StepScript.Proofs.Editor.Inside
import StepScript.Proofs.Marker.Hint
import StepScript.Proofs.Marker.OneStyle
import StepScript.Proofs.Catalog.Loading
import StepScript.Proofs.Vocabulary.Keys
import StepScript.Proofs.Editor.Values
import StepScript.Proofs.Catalog.Suggestions
import StepScript.Proofs.Phrase.FirstWords
import StepScript.Proofs.Vocabulary.LongestPhrase
import StepScript.Proofs.Grammar.LineStart
import StepScript.Proofs.Grammar.Places
import StepScript.Proofs.Grammar.Literals
import StepScript.Proofs.Grammar.LetterCase
import StepScript.Proofs.Editor.Content
import StepScript.Proofs.Marker.Ranges
import StepScript.Proofs.Catalog.Listing
import StepScript.Proofs.LanguageServer.Slices
import StepScript.Proofs.Scan.Number
import StepScript.Proofs.Grammar.Numbers
import StepScript.Proofs.Markdown.CodeSpan
import StepScript.Proofs.Markdown.TokenItems
import StepScript.Proofs.Grammar.InBytes
