import StepScript.Character.Cased
import StepScript.Character.Lowercase
import StepScript.Text.Basic

/-!
# Lower case of texts

**The rule.** A text is lowered character by character, except that a capital sigma at the end of
a word becomes the final small sigma: one that follows a cased character and precedes none, when
case-ignorable characters on either side are passed over. `lowerFrom` carries along whether the
text so far ends in a cased character, so that the rule is one recursion over the text.

Keywords, catalog keys, placeholder names and completion queries are all compared in lower case.
-/

namespace StepScript.Text

/-- Whether the first character that is not case-ignorable is cased. -/
def startsCased (t : Text) : Bool :=
  (t.find? (fun c => !isCaseIgnorable c)).any isCased

/-- The lower case of `c` between a text that ends in a cased character, or does not, and `rest`. -/
def lowerAt (afterCased : Bool) (c : Char) (rest : Text) : Text :=
  if c = 'Σ' then [if afterCased && !startsCased rest then 'ς' else 'σ'] else lowerChar c

/-- The lower case of a text that continues another one; `afterCased` says whether the last
character before it that is not case-ignorable is cased. -/
def lowerFrom (afterCased : Bool) : Text → Text
  | [] => []
  | c :: rest =>
    lowerAt afterCased c rest ++
      lowerFrom (if isCaseIgnorable c then afterCased else isCased c) rest

/-- The lower case of a text. -/
def lower (t : Text) : Text := lowerFrom false t

end StepScript.Text
