import StepScript.Character.Alphabetic
import StepScript.Text.Basic

/-!
# The start of a line: words and headings

A word of a script line is a run of alphabetic characters. What a line is shows at its start: a
word followed by a colon makes a heading, and the first few words may form a keyword phrase. Blank
characters may stand before each word and count as part of what is read.
-/

namespace StepScript.Scan

/-- The blank characters at the start of a text. -/
def blanks (t : Text) : Text := t.takeWhile isBlank

/-- The text without the blank characters at its start. -/
def afterBlanks (t : Text) : Text := t.dropWhile isBlank

/-- The word at the start of a text, without the blank characters before it. -/
def leadingWord (t : Text) : Text := (afterBlanks t).takeWhile isAlphabetic

/-- The length of the word at the start of a text with the blank characters before it; zero when
there is no word. -/
def leadingWordLength (t : Text) : Nat :=
  if leadingWord t = [] then 0 else (blanks t).length + (leadingWord t).length

/-- The words at the start of a text, at most `limit`, each with the length of the text up to its
end. A word ends where its letters end, so the next one is preceded by blank characters. -/
def leadingWordsFrom (start : Nat) : Nat → Text → List (Text × Nat)
  | 0, _ => []
  | limit + 1, t =>
    let length := leadingWordLength t
    if length = 0 then []
    else (leadingWord t, start + length) ::
      leadingWordsFrom (start + length) limit (t.drop length)

/-- The words at the start of a line, at most `limit`, each with the length of the line up to its
end. -/
def leadingWords (limit : Nat) (line : Text) : List (Text × Nat) := leadingWordsFrom 0 limit line

/-- The word of a heading and the length of the heading: one word and a colon, with blank
characters before the word and between the two. -/
def heading? (line : Text) : Option (Text × Nat) :=
  let length := leadingWordLength line
  let after := line.drop length
  if length = 0 then none
  else
    match afterBlanks after with
    | ':' :: _ => some (leadingWord line, length + (blanks after).length + 1)
    | _ => none

end StepScript.Scan
