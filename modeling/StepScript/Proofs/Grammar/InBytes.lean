import Mathlib
import StepScript.Proofs.Grammar.LineStart
import StepScript.Proofs.Vocabulary.InBytes

/-!
# Reading a line at byte offsets

**What may go wrong.** The rules of the tokenizer are said in characters, of which nothing can be cut in
two. Here they are said once more at byte offsets: each one cuts the rest of the line off at its offset,
which fails between the bytes of a character, and says how many bytes it takes, which might be none or
too many (`ByteMatch`). The loop over a line goes on at whatever offset comes out, and puts neighbours of
kind `text` together by moving the end of the last token (`Span.push`).

**Why nothing goes wrong.** At the end of an initial part of the line, each rule takes the bytes of the
characters that its counterpart takes (`Vocabulary.stepInBytes?_eq`, from one lemma for each rule), so it
makes progress to the end of another initial part (`Vocabulary.exists_stepInBytes?`). By induction over
the characters, the loop comes to an end with the spans of the tokens of the line
(`Vocabulary.tokenizeInBytes?_eq`).
-/

namespace StepScript

open Scan

/-- A token by the byte offsets at which it starts and ends. -/
structure Span where
  start : Nat
  stop : Nat
  kind : TokenKind
  /-- The mode in effect after it. -/
  mode : Mode
  deriving DecidableEq, Repr

/-- A token with the byte offsets at which it starts and ends. -/
def Span.ofToken (s : Nat × Nat × Token) : Span := ⟨s.1, s.2.1, s.2.2.kind, s.2.2.mode⟩

/-- Puts a token behind those read before, of which the last one comes first. Two neighbours of kind
`text` become one token, which keeps the first one's mode. -/
def Span.push (span : Span) : List Span → List Span
  | [] => [span]
  | last :: others =>
    if last.kind = .text ∧ span.kind = .text then { last with stop := span.stop } :: others
    else span :: last :: others

/-! ## Joining neighbours as they come -/

namespace Token

variable {token next : Token}

/-- A neighbour of the same kind `text` is put behind a token by moving its end. -/
theorem push_of_text (both : token.kind = .text ∧ next.kind = .text) (start middle stop : Nat)
    (before : List Span) :
    (Span.ofToken (middle, stop, next)).push (Span.ofToken (start, middle, token) :: before) =
      Span.ofToken (start, stop, { token with text := token.text ++ next.text }) :: before :=
  if_pos both

/-- Any other neighbour is put behind a token on its own. -/
theorem push_of_apart (apart : token.Apart next) (start middle stop : Nat) (before : List Span) :
    (Span.ofToken (middle, stop, next)).push (Span.ofToken (start, middle, token) :: before) =
      Span.ofToken (middle, stop, next) :: Span.ofToken (start, middle, token) :: before :=
  if_neg apart

/-- Tokens that are put behind each other as they come are those that are joined. -/
theorem foldl_push (token : Token) (start : Nat) (rest : List Token) (before : List Span) :
    (((spansFrom (start + token.text.byteLength) rest).map Span.ofToken).foldl
        (fun before span => span.push before)
        (Span.ofToken (start, start + token.text.byteLength, token) :: before)).reverse =
      before.reverse ++ (spansFrom start (joinText (token :: rest))).map Span.ofToken := by
  induction rest generalizing token start before with
  | nil => simp [spansFrom, joinText, attach]
  | cons next rest ih =>
    rw [spansFrom, List.map_cons, List.foldl_cons]
    by_cases both : token.kind = .text ∧ next.kind = .text
    · have later := ih { token with text := token.text ++ next.text } start before
      rw [Text.byteLength_append, ← Nat.add_assoc] at later
      rw [push_of_text both, joinText_cons_cons_of_text both, later]
    · rw [push_of_apart both, ih, joinText_cons_cons_of_apart both, spansFrom, List.map_cons,
        List.reverse_cons, List.append_assoc]
      rfl

end Token

namespace Scan

/-! ## The rules -/

/-- What a rule takes from the rest of a line, counted in bytes. Nothing says that it takes any, or that
the line has as many. -/
structure ByteMatch where
  /-- The number of bytes. -/
  length : Nat
  kind : TokenKind
  effect : Effect
  deriving DecidableEq, Repr

/-- The word of a heading and the byte offset at which the heading ends, if the line has one. -/
def headingInBytes? (line : Text) : Option (Option (Text × Nat)) := do
  let start := (blanks line).byteLength
  let stop := start + (leadingWord line).byteLength
  let word ← line.slice? start stop
  let after ← line.slice? stop line.byteLength
  some (if word ≠ [] ∧ (afterBlanks after).head? = some ':' then
    some (word, stop + (blanks after).byteLength + 1) else none)

/-- A word and the blanks before it. -/
def wordInBytes? (t : Text) (kind : TokenKind) : Option ByteMatch :=
  if leadingWord t = [] then none
  else some ⟨(blanks t).byteLength + (leadingWord t).byteLength, kind, .stay⟩

/-- A delimiter that opens a literal, or the whole rest of the line if the literal does not end. -/
def openingInBytes? (rest : Text) : Option ByteMatch :=
  (rest.head?.bind Delimiter.ofOpening?).map fun d =>
    if runsOut d.closing rest.tail then ⟨rest.byteLength, .stringInvalid, .stay⟩
    else ⟨1, .string, .enter (.literal d)⟩

/-- The rules shared by the root mode and the rows, at a byte offset. -/
def sharedInBytes? (line : Text) (position : Nat) : Option (Option ByteMatch) := do
  let rest ← line.slice? position line.byteLength
  let solid := afterBlanks rest
  let white : Text := rest.takeWhile isSpace
  let number : Text := rest.take (numberLength rest)
  if rest.head? = some '@' then some (some ⟨rest.byteLength, .tag, .stay⟩)
  else if position = 0 ∧ solid.head? = some '*' then some (some ⟨rest.byteLength, .strong, .stay⟩)
  else if position = 0 ∧ solid.head? = some '|' then do
    let skipped ← checkedSub rest.byteLength solid.byteLength
    some (some ⟨skipped + 1, .operator, .enter (.row .params)⟩)
  else if white ≠ [] then some (some ⟨white.byteLength, .white, .stay⟩)
  else if position = 0 ∧ (rest.head? = some '#' ∨ "//".toList <+: rest) then
    some (some ⟨rest.byteLength, .comment, .stay⟩)
  else if number ≠ [] then some (some ⟨number.byteLength, .number, .stay⟩)
  else some (openingInBytes? rest)

/-- The character at a byte offset. -/
def charInBytes? (line : Text) (position : Nat) : Option ByteMatch := do
  let rest ← line.slice? position line.byteLength
  some ⟨(rest.head?.map Char.utf8Size).getD 1, .text, .stay⟩

/-- The rules in a row of parameters, at a byte offset. -/
def paramsInBytes? (line : Text) (position : Nat) : Option ByteMatch := do
  match ← sharedInBytes? line position with
  | some found => some found
  | none => charInBytes? line position

/-- The rules after a keyword, at a byte offset. -/
def operatorInBytes? (line : Text) (position : Nat) : Option ByteMatch := do
  let rest ← line.slice? position line.byteLength
  match wordInBytes? rest .identifier with
  | some found => some found
  | none => paramsInBytes? line position

/-- The rules inside a literal, at a byte offset. -/
def literalInBytes? (d : Delimiter) (line : Text) (position : Nat) : Option ByteMatch := do
  let rest ← line.slice? position line.byteLength
  if rest.head? = some d.closing then some ⟨d.closing.utf8Size, .string, .leave⟩
  else if rest.head? = some '\\' then
    if escapeBodyLength rest.tail = 0 then
      some ⟨Text.byteLength (rest.take 2), .stringEscapeInvalid, .stay⟩
    else some ⟨Text.byteLength (rest.take (1 + escapeBodyLength rest.tail)), .stringEscape, .stay⟩
  else
    let plain : Text := rest.takeWhile fun c => c ≠ d.closing && c ≠ '\\'
    some ⟨plain.byteLength, .string, .stay⟩

/-! ## Rules in bytes and rules in characters -/

/-- A match counted in bytes: as many as its characters take. -/
def ByteMatch.ofMatch (t : Text) (m : Match) : ByteMatch :=
  ⟨Text.byteLength (t.take m.length), m.kind, m.effect⟩

variable {c : Char} {rest : Text}

/-- A match of all that is left takes all the bytes that are left. -/
theorem ofMatch_through (kind : TokenKind) :
    ByteMatch.ofMatch (c :: rest) (.through rest kind) =
      ⟨Text.byteLength (c :: rest), kind, .stay⟩ := by
  have all : (c :: rest).take (rest.length + 1) = c :: rest := List.take_length (l := c :: rest)
  change (⟨Text.byteLength ((c :: rest).take (rest.length + 1)), kind, .stay⟩ : ByteMatch) = _
  rw [all]

/-- A match of some characters takes their bytes, unless there are none. -/
theorem map_ofMatch_ofLength? (length : Nat) (kind : TokenKind) (effect : Effect) :
    (Match.ofLength? length kind effect).map (ByteMatch.ofMatch (c :: rest)) =
      if (c :: rest).take length = [] then none
      else some ⟨Text.byteLength ((c :: rest).take length), kind, effect⟩ := by
  cases length <;> rfl

/-- A word takes the bytes of its letters and of the blanks before it. -/
theorem wordInBytes?_eq (kind : TokenKind) :
    wordInBytes? (c :: rest) kind =
      (Match.ofLength? (leadingWordLength (c :: rest)) kind).map (ByteMatch.ofMatch (c :: rest)) := by
  rw [map_ofMatch_ofLength?, wordInBytes?]
  by_cases no_word : leadingWord (c :: rest) = []
  · rw [if_pos no_word, Phrase.leadingWordLength_eq_zero_iff.mpr no_word]
    rfl
  · have some_word : leadingWordLength (c :: rest) ≠ 0 :=
      mt Phrase.leadingWordLength_eq_zero_iff.mp no_word
    rw [if_neg no_word, Phrase.take_leadingWordLength some_word,
      if_neg (List.append_ne_nil_of_right_ne_nil _ no_word), Text.byteLength_append]

/-- A delimiter that opens a literal takes one byte. -/
theorem openingInBytes?_eq :
    openingInBytes? (c :: rest) =
      ((Delimiter.ofOpening? c).map (openingMatch · rest)).map (ByteMatch.ofMatch (c :: rest)) := by
  rw [openingInBytes?, List.head?_cons, Option.bind_some, List.tail_cons, Option.map_map]
  refine Option.map_congr fun d opens => ?_
  rw [Function.comp_apply, openingMatch]
  split
  · rw [ofMatch_through]
  · obtain rfl := Delimiter.opening_of_ofOpening? opens
    cases d <;> rfl

/-- What begins with white space, a number or a delimiter, in that order. -/
theorem map_ofMatch_plain :
    ((Match.ofLength? ((c :: rest).takeWhile isSpace).length .white).or
        ((Match.ofLength? (numberLength (c :: rest)) .number).or
          ((Delimiter.ofOpening? c).map (openingMatch · rest)))).map
        (ByteMatch.ofMatch (c :: rest)) =
      if (c :: rest).takeWhile isSpace ≠ [] then
        some ⟨Text.byteLength ((c :: rest).takeWhile isSpace), .white, .stay⟩
      else if (c :: rest).take (numberLength (c :: rest)) ≠ [] then
        some ⟨Text.byteLength ((c :: rest).take (numberLength (c :: rest))), .number, .stay⟩
      else openingInBytes? (c :: rest) := by
  rw [Option.map_or, Option.map_or, map_ofMatch_ofLength?, map_ofMatch_ofLength?,
    take_length_takeWhile, ← openingInBytes?_eq]
  by_cases white : (c :: rest).takeWhile isSpace = []
  · by_cases number : (c :: rest).take (numberLength (c :: rest)) = []
    · simp [white, number]
    · simp [white, number]
  · simp [white]

/-- The rules for the start of a line only, by the first character that is not blank. -/
theorem lineMatch?_eq :
    lineMatch? c rest =
      if (afterBlanks (c :: rest)).head? = some '*' then some (.through rest .strong)
      else if (afterBlanks (c :: rest)).head? = some '|' then
        Match.ofLength? ((blanks (c :: rest)).length + 1) .operator (.enter (.row .params))
      else if c = '#' ∨ "//".toList <+: c :: rest then some (.through rest .comment)
      else none := by
  have slashes : "//".toList <+: c :: rest ↔ c = '/' ∧ rest.head? = some '/' := by
    cases rest <;> simp [eq_comm]
  simp only [lineMatch?, slashes]
  split
  · simp_all
  · simp_all
  · rename_i no_strong no_bar
    have not_strong : (afterBlanks (c :: rest)).head? ≠ some '*' := fun strong => by
      obtain ⟨after, found⟩ := List.head?_eq_some_iff.mp strong
      exact no_strong after found
    have not_bar : (afterBlanks (c :: rest)).head? ≠ some '|' := fun bar => by
      obtain ⟨after, found⟩ := List.head?_eq_some_iff.mp bar
      exact no_bar after found
    rw [if_neg not_strong, if_neg not_bar]

/-- A bar takes one byte, behind the blanks before it. -/
theorem ofMatch_bar (bar : (afterBlanks (c :: rest)).head? = some '|') :
    (Match.ofLength? ((blanks (c :: rest)).length + 1) .operator (.enter (.row .params))).map
        (ByteMatch.ofMatch (c :: rest)) =
      some ⟨(blanks (c :: rest)).byteLength + 1, .operator, .enter (.row .params)⟩ := by
  obtain ⟨after, found⟩ := List.head?_eq_some_iff.mp bar
  have taken : (c :: rest).take ((blanks (c :: rest)).length + 1) = blanks (c :: rest) ++ ['|'] := by
    conv_lhs => arg 2; rw [← blanks_append_afterBlanks (c :: rest), found]
    rw [List.take_length_add_append]
    rfl
  rw [map_ofMatch_ofLength?, taken, if_neg (by simp), Text.byteLength_append]
  rfl

/-- **The rules that the root mode and the rows have in common** take the same in bytes. -/
theorem sharedInBytes?_eq (front : Text) (c : Char) (rest : Text) :
    sharedInBytes? (front ++ c :: rest) front.byteLength =
      some ((sharedMatch? (decide (front = [])) c rest).map (ByteMatch.ofMatch (c :: rest))) := by
  have skipped : checkedSub (Text.byteLength (c :: rest)) (afterBlanks (c :: rest)).byteLength =
      some (blanks (c :: rest)).byteLength := by
    conv_lhs => arg 1; rw [← blanks_append_afterBlanks (c :: rest), Text.byteLength_append]
    exact checkedSub_add_right _ _
  rw [sharedInBytes?, Text.slice?_append, Option.bind_eq_bind, Option.bind_some, sharedMatch?]
  simp only [List.head?_cons, Option.some.injEq, Text.byteLength_eq_zero_iff, decide_eq_true_eq,
    lineMatch?_eq, skipped]
  by_cases tag : c = '@'
  · rw [if_pos tag, if_pos tag, Option.map_some, ofMatch_through]
  rw [if_neg tag, if_neg tag]
  by_cases start : front = []
  · simp only [start, true_and, if_true]
    by_cases strong : (afterBlanks (c :: rest)).head? = some '*'
    · rw [if_pos strong, if_pos strong, Option.some_or, Option.map_some, ofMatch_through]
    rw [if_neg strong, if_neg strong]
    by_cases bar : (afterBlanks (c :: rest)).head? = some '|'
    · rw [if_pos bar, if_pos bar, Option.map_or, ofMatch_bar bar]
      rfl
    rw [if_neg bar, if_neg bar]
    by_cases comment : c = '#' ∨ "//".toList <+: c :: rest
    · -- What a comment begins with is no white space.
      have no_space : (c :: rest).takeWhile isSpace = [] := by
        have solid : isSpace c = false := by
          rcases comment with rfl | slashes
          · decide
          · obtain rfl := (List.cons_prefix_cons.mp slashes).1
            decide
        rw [List.takeWhile_cons_of_neg (by simp [solid])]
      rw [if_pos comment, if_pos comment, if_neg (by simp [no_space]), Option.some_or,
        Option.map_some, ofMatch_through]
    rw [if_neg comment, if_neg comment, Option.none_or, map_ofMatch_plain]
    split_ifs <;> rfl
  · simp only [start, false_and, if_false, Option.none_or, map_ofMatch_plain]
    split_ifs <;> rfl

/-- What is left over is one character. -/
theorem charInBytes?_eq (front : Text) (c : Char) (rest : Text) :
    charInBytes? (front ++ c :: rest) front.byteLength =
      some (ByteMatch.ofMatch (c :: rest) (.one .text)) := by
  rw [charInBytes?, Text.slice?_append]
  rfl

/-- The rules in a row of parameters take the same in bytes. -/
theorem paramsInBytes?_eq (front : Text) (c : Char) (rest : Text) :
    paramsInBytes? (front ++ c :: rest) front.byteLength =
      some (ByteMatch.ofMatch (c :: rest) (paramsMatch (decide (front = [])) c rest)) := by
  rw [paramsInBytes?, sharedInBytes?_eq, Option.bind_eq_bind, Option.bind_some, paramsMatch]
  cases sharedMatch? (decide (front = [])) c rest with
  | some found => rfl
  | none => exact charInBytes?_eq front c rest

/-- The rules after a keyword take the same in bytes. -/
theorem operatorInBytes?_eq (front : Text) (c : Char) (rest : Text) :
    operatorInBytes? (front ++ c :: rest) front.byteLength =
      some (ByteMatch.ofMatch (c :: rest) (operatorMatch (decide (front = [])) c rest)) := by
  rw [operatorInBytes?, Text.slice?_append, Option.bind_eq_bind, Option.bind_some, wordInBytes?_eq,
    operatorMatch]
  cases Match.ofLength? (leadingWordLength (c :: rest)) .identifier with
  | some found => rfl
  | none => exact paramsInBytes?_eq front c rest

/-- The rules inside a literal take the same in bytes. -/
theorem literalInBytes?_eq (d : Delimiter) (front : Text) (c : Char) (rest : Text) :
    literalInBytes? d (front ++ c :: rest) front.byteLength =
      some (ByteMatch.ofMatch (c :: rest) (literalMatch d c rest)) := by
  rw [literalInBytes?, Text.slice?_append, Option.bind_eq_bind, Option.bind_some, literalMatch]
  simp only [List.head?_cons, Option.some.injEq]
  by_cases close : c = d.closing
  · rw [if_pos close, if_pos close, close]
    rfl
  rw [if_neg close, if_neg close]
  by_cases escape : c = '\\'
  · rw [if_pos escape, if_pos escape]
    by_cases no_body : escapeBodyLength rest = 0
    · have no_tail : escapeBodyLength (c :: rest).tail = 0 := no_body
      rw [if_pos no_tail, if_pos no_body]
      cases rest <;> rfl
    · have some_tail : escapeBodyLength (c :: rest).tail ≠ 0 := no_body
      rw [if_neg some_tail, if_neg no_body]
      rfl
  · have plain : (c :: rest).takeWhile (fun c => c ≠ d.closing && c ≠ '\\') =
        (c :: rest).take (1 + plainLength d.closing rest) := by
      rw [List.takeWhile_cons_of_pos (by simp [close, escape]), Nat.add_comm, List.take_succ_cons,
        plainLength, take_length_takeWhile]
    rw [if_neg escape, if_neg escape, plain]
    rfl

/-- The characters of a heading are its word, the blanks around it and the colon. -/
theorem take_heading {line after more : Text} (some_word : leadingWordLength line ≠ 0)
    (split : blanks line ++ leadingWord line ++ after = line) (colon : afterBlanks after = ':' :: more) :
    line.take (leadingWordLength line + (blanks after).length + 1) =
      blanks line ++ leadingWord line ++ (blanks after ++ [':']) := by
  rw [← Phrase.length_blanks_append_leadingWord some_word, Nat.add_assoc]
  conv_lhs => arg 2; rw [← split, ← blanks_append_afterBlanks after, colon]
  rw [List.take_length_add_append, List.take_length_add_append]
  rfl

/-- A heading ends where its characters do. -/
theorem headingInBytes?_eq (line : Text) :
    headingInBytes? line =
      some ((heading? line).map fun h => (h.1, Text.byteLength (line.take h.2))) := by
  obtain ⟨after, after_eq⟩ : ∃ after, after = (afterBlanks line).dropWhile isAlphabetic := ⟨_, rfl⟩
  have split : blanks line ++ leadingWord line ++ after = line :=
    after_eq ▸ Phrase.append_leadingWord line
  have word := Text.slice?_of_split split
  have rest : line.slice? ((blanks line).byteLength + (leadingWord line).byteLength)
      line.byteLength = some after := by
    have cut := Text.slice?_append (blanks line ++ leadingWord line) after
    rwa [split, Text.byteLength_append] at cut
  rw [headingInBytes?, heading?, word, Option.bind_eq_bind, Option.bind_some, rest,
    Option.bind_some]
  by_cases no_word : leadingWord line = []
  · rw [if_neg (by simp [no_word]), if_pos (Phrase.leadingWordLength_eq_zero_iff.mpr no_word)]
    rfl
  have some_word : leadingWordLength line ≠ 0 := mt Phrase.leadingWordLength_eq_zero_iff.mp no_word
  have behind : line.drop (leadingWordLength line) = after :=
    (Phrase.drop_leadingWordLength some_word).trans after_eq.symm
  rw [if_neg some_word, behind]
  by_cases colon : (afterBlanks after).head? = some ':'
  · obtain ⟨more, found⟩ := List.head?_eq_some_iff.mp colon
    rw [if_pos ⟨no_word, colon⟩, found]
    simp only [Option.map_some, take_heading some_word split found, Text.byteLength_append]
    rfl
  · have no_colon : ∀ more, afterBlanks after ≠ ':' :: more := fun more found =>
      colon (by rw [found, List.head?_cons])
    rw [if_neg (fun both => colon both.2)]
    split
    · exact absurd ‹_› (no_colon _)
    · rfl

end Scan

namespace Vocabulary

/-! ## Rules that read the vocabulary -/

/-- The rules for the start of a line: a heading, a keyword phrase, or a word. -/
def startInBytes? (v : Vocabulary) (line : Text) : Option (Option ByteMatch) := do
  match ← headingInBytes? line with
  | some (word, stop) =>
    some (some ⟨stop, if v.isSingleKeyword word then .heading else .identifier, .stay⟩)
  | none =>
    match ← v.keywordInBytes? line with
    | some stop => some (some ⟨stop, .keyword, .enter (.row .operator)⟩)
    | none => some (wordInBytes? line .emphasis)

/-- These rules, at a byte offset: they hold at offset 0 only. -/
def atStartInBytes? (v : Vocabulary) (line : Text) (position : Nat) : Option (Option ByteMatch) :=
  if position = 0 then v.startInBytes? line else some none

/-- The rules of the root mode, at a byte offset. -/
def rootInBytes? (v : Vocabulary) (line : Text) (position : Nat) : Option ByteMatch := do
  match ← v.atStartInBytes? line position with
  | some found => some found
  | none =>
    match ← sharedInBytes? line position with
    | some found => some found
    | none =>
      let left ← checkedSub line.byteLength position
      some ⟨left, .emphasis, .stay⟩

/-- The rules of a mode, at a byte offset. -/
def stepInBytes? (v : Vocabulary) (mode : Mode) (line : Text) (position : Nat) :
    Option ByteMatch :=
  match mode with
  | .root => v.rootInBytes? line position
  | .row .operator => operatorInBytes? line position
  | .row .params => paramsInBytes? line position
  | .literal d => literalInBytes? d line position

/-- The rules for the start of a line take the same in bytes, whatever the keywords are. -/
theorem startInBytes?_eq (v : Vocabulary) (phrases : List Text) (c : Char) (rest : Text) :
    (v.withKeywords phrases).startInBytes? (c :: rest) =
      some (((v.withKeywords phrases).startMatch? (c :: rest)).map
        (ByteMatch.ofMatch (c :: rest))) := by
  rw [startInBytes?, headingInBytes?_eq, keywordInBytes?_eq, Option.bind_eq_bind, Option.bind_some]
  cases heading : heading? (c :: rest) with
  | some h =>
    obtain ⟨positive, found⟩ := startMatch?_of_heading (v := v.withKeywords phrases) heading
    rw [found]
    rfl
  | none =>
    cases keyword : (v.withKeywords phrases).leadingKeyword? (c :: rest) with
    | some k =>
      obtain ⟨positive, found⟩ := startMatch?_of_leadingKeyword? heading keyword
      rw [found]
      rfl
    | none =>
      rw [startMatch?, heading, keyword]
      exact congrArg some (wordInBytes?_eq .emphasis)

/-- The rules of the root mode take the same in bytes. -/
theorem rootInBytes?_eq (v : Vocabulary) (phrases : List Text) (front : Text) (c : Char)
    (rest : Text) :
    (v.withKeywords phrases).rootInBytes? (front ++ c :: rest) front.byteLength =
      some (ByteMatch.ofMatch (c :: rest)
        ((v.withKeywords phrases).rootMatch (decide (front = [])) c rest)) := by
  have left : checkedSub (Text.byteLength (front ++ c :: rest)) front.byteLength =
      some (Text.byteLength (c :: rest)) := by
    rw [Text.byteLength_append, Nat.add_comm, checkedSub_add_right]
  have opening : (v.withKeywords phrases).atStartInBytes? (front ++ c :: rest) front.byteLength =
      some ((if decide (front = []) then (v.withKeywords phrases).startMatch? (c :: rest)
        else none).map (ByteMatch.ofMatch (c :: rest))) := by
    by_cases start : front = []
    · subst start
      exact startInBytes?_eq v phrases c rest
    · rw [atStartInBytes?, if_neg (mt Text.byteLength_eq_zero_iff.mp start), decide_eq_false start]
      rfl
  rw [rootInBytes?, opening, sharedInBytes?_eq, left, rootMatch, Option.bind_eq_bind,
    Option.bind_some]
  cases if decide (front = []) then (v.withKeywords phrases).startMatch? (c :: rest) else none with
  | some found => rfl
  | none =>
    cases sharedMatch? (decide (front = [])) c rest with
    | some found => rfl
    | none => exact congrArg some (ofMatch_through .emphasis).symm

/-- **Every rule takes the same in bytes.** At the end of an initial part of a line the rest of the line
can be cut off, and the rules take as many bytes of it as the characters have that they take. -/
theorem stepInBytes?_eq (v : Vocabulary) (phrases : List Text) (mode : Mode) (front : Text) (c : Char)
    (rest : Text) :
    (v.withKeywords phrases).stepInBytes? mode (front ++ c :: rest) front.byteLength =
      some (ByteMatch.ofMatch (c :: rest)
        ((v.withKeywords phrases).matchAt mode (decide (front = [])) c rest)) := by
  match mode with
  | .root => exact rootInBytes?_eq v phrases front c rest
  | .row .operator => exact operatorInBytes?_eq front c rest
  | .row .params => exact paramsInBytes?_eq front c rest
  | .literal d => exact literalInBytes?_eq d front c rest

/-! ## Lines -/

/-- The tokens of a line from a byte offset on, and the state behind it. The tokens that have been read
come with the last one first. None if something cannot be cut, or if a rule takes no bytes. -/
def scanInBytes? (v : Vocabulary) (line : Text) (state : LineState) (read : List Span)
    (position : Nat) : Option (List Span × LineState) :=
  if position < line.byteLength then
    match v.stepInBytes? state.mode line position with
    | none => none
    | some found =>
      if 0 < found.length then
        let next := state.apply found.effect
        let stop := position + found.length
        v.scanInBytes? line next (Span.push ⟨position, stop, found.kind, next.mode⟩ read) stop
      else none
  else some (read.reverse, state)
termination_by line.byteLength - position

/-- The tokens of a line that follows a line with the given state, read at byte offsets. -/
def tokenizeInBytes? (v : Vocabulary) (line : Text) (state : LineState) :
    Option (List Span × LineState) :=
  v.scanInBytes? line state.nextLine [] 0

/-- The tokens that are read at byte offsets are the pieces of the line, joined as they come. -/
theorem scanInBytes?_eq (v : Vocabulary) (phrases : List Text) {front t : Text} {state : LineState}
    {atStart : Bool} (start : atStart = decide (front = [])) (read : List Span) :
    let scanned := (v.withKeywords phrases).scan state atStart t
    (v.withKeywords phrases).scanInBytes? (front ++ t) state read front.byteLength =
      some ((((Token.spansFrom front.byteLength scanned.1).map Span.ofToken).foldl
        (fun before span => span.push before) read).reverse, scanned.2) := by
  fun_induction scan (v.withKeywords phrases) state atStart t generalizing front read with
  | case1 =>
    rw [scanInBytes?, List.append_nil, if_neg (lt_irrefl _)]
    rfl
  | case2 state atStart c rest found next token after =>
    rename_i ih
    have some_taken : token.text ≠ [] := by
      simp only [token, ne_eq, List.take_eq_nil_iff, found.positive.ne', List.cons_ne_nil, or_self,
        not_false_eq_true]
    have some_bytes : 0 < token.text.byteLength := Text.byteLength_pos some_taken
    have split : front ++ c :: rest = front ++ token.text ++ (c :: rest).drop found.length := by
      rw [List.append_assoc, List.take_append_drop]
    have more : front.byteLength < Text.byteLength (front ++ c :: rest) := by
      have := Text.byteLength_pos (List.cons_ne_nil c rest)
      rw [Text.byteLength_append]
      omega
    have taken : (v.withKeywords phrases).stepInBytes? state.mode (front ++ c :: rest)
        front.byteLength = some ⟨token.text.byteLength, found.kind, found.effect⟩ := by
      rw [stepInBytes?_eq, ← start]
      rfl
    have begun : false = decide (front ++ token.text = []) := by simp [some_taken]
    have later := ih begun
      (Span.push (Span.ofToken (front.byteLength, front.byteLength + token.text.byteLength, token))
        read)
    rw [Text.byteLength_append, ← split] at later
    rw [scanInBytes?, if_pos more, taken]
    dsimp only
    rw [if_pos some_bytes]
    exact later

/-- **The tokenizer in byte offsets never fails**, and gives the same tokens. -/
theorem tokenizeInBytes?_eq (v : Vocabulary) (phrases : List Text) (line : Text) (state : LineState) :
    (v.withKeywords phrases).tokenizeInBytes? line state =
      let read := (v.withKeywords phrases).tokenizeLine line state
      some ((Token.spans read.tokens).map Span.ofToken, read.state) := by
  have start : true = decide (([] : Text) = []) := rfl
  refine (scanInBytes?_eq v phrases start []).trans ?_
  rw [tokenizeLine]
  dsimp only
  cases ((v.withKeywords phrases).scan state.nextLine true line).1 with
  | nil => rfl
  | cons first rest =>
    have joined := Token.foldl_push first 0 rest []
    rw [Token.spansFrom, List.map_cons, List.foldl_cons]
    exact congrArg (fun spans => some (spans, _)) joined

/-- **Between characters every rule makes progress.** At a boundary before the end of a line, the rest of
the line can be cut off, and the rule takes at least one byte, up to another boundary that is not behind
the end. -/
theorem exists_stepInBytes? (v : Vocabulary) (phrases : List Text) (mode : Mode) {line : Text}
    {position : Nat} (boundary : line.isBoundary position = true)
    (inside : position < line.byteLength) :
    ∃ found, (v.withKeywords phrases).stepInBytes? mode line position = some found ∧
      0 < found.length ∧ line.isBoundary (position + found.length) = true ∧
      position + found.length ≤ line.byteLength := by
  obtain ⟨front, ⟨t, rfl⟩, rfl⟩ := Text.isBoundary_iff.mp boundary
  cases t with
  | nil =>
    rw [List.append_nil] at inside
    exact absurd inside (lt_irrefl _)
  | cons c rest =>
    have taken := stepInBytes?_eq v phrases mode front c rest
    generalize (v.withKeywords phrases).matchAt mode (decide (front = [])) c rest = m at taken
    have some_taken : (c :: rest).take m.length ≠ [] := by
      simp [m.positive.ne']
    have part : front ++ (c :: rest).take m.length <+: front ++ c :: rest :=
      (List.prefix_append_right_inj front).mpr (List.take_prefix _ _)
    have stop : front.byteLength + (ByteMatch.ofMatch (c :: rest) m).length =
        Text.byteLength (front ++ (c :: rest).take m.length) := (Text.byteLength_append _ _).symm
    refine ⟨_, taken, Text.byteLength_pos some_taken, ?_, ?_⟩
    · rw [stop]
      exact Text.isBoundary_of_isPrefix part
    · rw [stop]
      exact Text.byteLength_le_of_isPrefix part

/-- **The tokens of a line cover it.** After any lines whatsoever, every rule takes at least one
character and no more than are left; the tokens cut the line into pieces between characters, and the
slice of the line between the two ends of a piece is the text of its token; no two neighbours are of
kind `text`; and the last token has the mode of the state after the line. In a document, the tokens of
each line put together are that line. For any keywords, and from any state, the same holds of the
tokenizer in byte offsets, with slices that fail where they cannot be cut: between characters each rule
makes progress to another place between characters, and reading a line comes to an end with the spans of
these tokens. -/
theorem tokenizeLine_covers (v : Vocabulary) (earlier : List Text) (line document : Text) :
    let read := v.tokenizeLine line (v.stateAfter .initial earlier)
    (∀ mode atStart c rest, (v.matchAt mode atStart c rest).length ∈ Set.Icc 1 (rest.length + 1)) ∧
      Token.Tiles line (Token.spans read.tokens) ∧
      (∀ s ∈ Token.spans read.tokens, line.slice? s.1 s.2.1 = some s.2.2.text) ∧
      read.tokens.IsChain Token.Apart ∧
      (∀ last ∈ read.tokens.getLast?, last.mode = read.state.mode) ∧
      (v.tokenize document).map LineTokens.text = document.lines ∧
      ∀ phrases : List Text,
        let v := v.withKeywords phrases
        (∀ mode position, line.isBoundary position = true → position < line.byteLength →
          ∃ found, v.stepInBytes? mode line position = some found ∧ 0 < found.length ∧
            line.isBoundary (position + found.length) = true ∧
            position + found.length ≤ line.byteLength) ∧
        ∀ state, v.tokenizeInBytes? line state =
          some ((Token.spans (v.tokenizeLine line state).tokens).map Span.ofToken,
            (v.tokenizeLine line state).state) := by
  intro read
  have covered : read.tokens.flatMap Token.text = line := v.text_tokenizeLine _ line
  have nonempty := Token.nonempty_joinText
    (v.nonempty_scan (v.stateAfter .initial earlier).nextLine true line)
  have tiles : Token.Tiles line (Token.spans read.tokens) := by
    have tiles := Token.tiles_spans read.tokens nonempty
    rwa [covered] at tiles
  obtain ⟨keeps, after⟩ := v.keepsMode_scan (v.stateAfter .initial earlier).nextLine true line
  refine ⟨fun mode atStart c rest => ?_, tiles, fun s mem => tiles.slice? mem,
    Token.isChain_joinText _, fun last found => ?_, v.text_tokenizeLines _ _, fun phrases =>
      ⟨fun mode position => exists_stepInBytes? v phrases mode, tokenizeInBytes?_eq v phrases line⟩⟩
  · exact ⟨(v.matchAt mode atStart c rest).positive, (rule_matchAt v atStart c rest mode).length_le⟩
  · have mode_after : Token.modeAfter _ read.tokens = read.state.mode :=
      (Token.keepsMode_joinText keeps).2.trans after
    rwa [Token.modeAfter, Option.mem_def.mp found] at mode_after

end Vocabulary

end StepScript
