import StepScript.Text.Basic

/-!
# Markdown

The few forms of Markdown in which reports and tooltips are written. A text inside a code span may
hold backticks of its own, so the span is then fenced with two of them and set off with blanks
(`Markdown.codeSpan`).
-/

namespace StepScript.Markdown

/-- The backtick that opens and closes a code span. -/
def tick : Text := "`".toList

/-- A text as a span of code. -/
def codeSpan (t : Text) : Text :=
  if Text.occursIn tick t then "`` ".toList ++ t ++ " ``".toList else tick ++ t ++ tick

/-- A text between backticks, whatever it holds. -/
def plainSpan (t : Text) : Text := tick ++ t ++ tick

/-- A heading of the first level. -/
def title (t : Text) : Text := "# ".toList ++ t

/-- A heading of the second level. -/
def heading (t : Text) : Text := "## ".toList ++ t

/-- An emphasised text. -/
def emphasis (t : Text) : Text := ['*'] ++ t ++ ['*']

/-- A strong text. -/
def strong (t : Text) : Text := "**".toList ++ t ++ "**".toList

/-- A block of code. -/
def codeBlock (lines : List Text) : Text :=
  "```\n".toList ++ ['\n'].intercalate lines ++ "\n```".toList

/-- A number in round brackets. -/
def count (n : Nat) : Text := ['('] ++ Text.ofNat n ++ [')']

/-- A line on its own and the blank line after it. -/
def block (t : Text) : Text := t ++ "\n\n".toList

/-- An item of a list. -/
def item (t : Text) : Text := "- ".toList ++ t ++ ['\n']

/-- An item of a list inside an item. -/
def innerItem (t : Text) : Text := "  ".toList ++ item t

end StepScript.Markdown
