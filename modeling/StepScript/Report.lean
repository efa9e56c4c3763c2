import StepScript.Catalog
import StepScript.Markdown
import StepScript.Token

/-!
# Reports: answers to be read outside the editor

A report is the tokens of a script, the steps of a catalog or the problems of a script. It is
written as data, for programs (`Report.toValue`), or as Markdown, for readers
(`Report.toMarkdown`). The lines of a script are numbered from one, and steps are listed by section
(`Catalog.listing`), so that a section has one heading.
-/

namespace StepScript

/-- The steps by section, and in each section in the order of the catalog. -/
def Catalog.listing (c : Catalog) : List Step :=
  c.sorted.mergeSort fun a b => (compare a.group b.group).isLE

/-- An answer to be read outside the editor. -/
inductive Report where
  /-- The tokens of a script, line by line. -/
  | tokens (lines : List LineTokens)
  /-- A listing of steps. -/
  | steps (listing : List Step)
  /-- The lines of a script whose step is unknown. -/
  | problems (problems : List Problem)

/-- A token as data: its text and its style. -/
def Token.toValue (t : Token) : Json.Value :=
  .record [("text", .string t.text), ("type", .ofString t.kind.style)]

/-- A step as data. The documentation is left out if there is none. -/
def Step.toValue (s : Step) : Json.Value :=
  .record ([("key", .string s.key), ("keyword", .string s.keyword), ("label", .string s.label),
      ("insertText", .string s.insertText), ("section", .string s.group),
      ("sortText", .string s.sortText)] ++
    if s.documentation = [] then [] else [("documentation", .string s.documentation)])

namespace Report

/-- A numbered line as data. -/
def lineValue (line : LineTokens × Nat) : Json.Value :=
  .record [("line", .ofNat line.2), ("tokens", .array (line.1.tokens.map Token.toValue))]

/-- A report as data. -/
def toValue : Report → Json.Value
  | tokens lines => .array ((lines.zipIdx 1).map lineValue)
  | steps listing => .array (listing.map Step.toValue)
  | problems list => .array (list.map Problem.toValue)

/-! ## Markdown -/

/-- A token as an item: its style and its text. -/
def tokenItem (t : Token) : Text :=
  Markdown.item (Markdown.plainSpan t.kind.style.toList ++ ' ' :: Markdown.codeSpan t.text)

/-- A numbered line with its tokens. -/
def lineText (line : LineTokens × Nat) : Text :=
  Markdown.block (Markdown.heading ("Line ".toList ++ Text.ofNat line.2)) ++
    if line.1.tokens = [] then Markdown.block (Markdown.emphasis "(empty)".toList)
    else line.1.tokens.flatMap tokenItem ++ ['\n']

/-- A step as an item with its key and its documentation. -/
def stepItem (s : Step) : Text :=
  Markdown.item (if s.keyword = [] then s.label else Markdown.strong s.keyword ++ ' ' :: s.label) ++
    Markdown.innerItem ("key: ".toList ++ Markdown.plainSpan s.key) ++
      if s.documentation = [] then [] else Markdown.innerItem s.documentation

/-- The heading of a section. -/
def sectionHeading (group : Text) : Text :=
  Markdown.block (Markdown.heading (if group = [] then "(no section)".toList else group))

/-- Steps with a heading in front of each one whose section is not that of the step before it. -/
def stepItems (previous : Option Text) : List Step → Text
  | [] => []
  | s :: rest =>
    (if previous = some s.group then [] else sectionHeading s.group) ++
      (stepItem s ++ stepItems (some s.group) rest)

/-- A problem as an item. -/
def problemItem (p : Problem) : Text :=
  Markdown.item ("line ".toList ++ Text.ofNat p.line ++ ": ".toList ++ p.message)

/-- A report for readers. -/
def toMarkdown : Report → Text
  | tokens lines => (lines.zipIdx 1).flatMap lineText
  | steps listing =>
    Markdown.block (Markdown.title ("Steps ".toList ++ Markdown.count listing.length)) ++
      stepItems none listing
  | problems [] => "No problems found.\n".toList
  | problems list =>
    Markdown.block (Markdown.title ("Problems ".toList ++ Markdown.count list.length)) ++
      list.flatMap problemItem

end Report

end StepScript
