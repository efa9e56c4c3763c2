import Mathlib
import StepScript.Proofs.Grammar.Rules
import StepScript.Proofs.Text.Slices

/-!
# The tokens of a line cover it

**What is proved.** The tokens of a line, in whatever state the line starts, are its characters cut
into pieces: none is empty, their spans start at byte 0, follow each other without gap or overlap,
end with the line and hold whole characters (`Token.Tiles`). Neighbours of kind `text` have been
joined, and the last token's mode is the mode of the state that is handed to the next line.

**How it is proved.** Two layers are treated apart. `Vocabulary.scan` cuts the line: the pieces are
its characters because each one is what the rule takes and the scan goes on with what the rule
leaves (`text_scan`). `Token.joinText` then joins pieces; `Token.attach` puts one piece in front of
others, so each property of the joined tokens is proved for one `attach` and follows by induction.

**Modes.** A joined token keeps the mode of its first piece. That this is also the mode after its
last piece holds since pieces of kind `text` leave the mode alone (`Token.KeepsMode`).
-/

namespace StepScript

/-- The characters that the tokens of a line cover. -/
def LineTokens.text (line : LineTokens) : Text := line.tokens.flatMap Token.text

namespace Token

/-! ## Spans -/

/-- Spans that cut a line into pieces: the first one starts with the line, each starts where the one
before it ends, the last one ends with the line, and each holds the characters of its token, of
which there is at least one. -/
structure Tiles (line : Text) (spans : List (Nat × Nat × Token)) : Prop where
  first : ∀ s ∈ spans.head?, s.1 = 0
  joined : spans.IsChain fun s t => s.2.1 = t.1
  last : (spans.getLast?.map fun s => s.2.1).getD 0 = line.byteLength
  nonempty : ∀ s ∈ spans, s.1 < s.2.1
  /-- Both ends of a span lie between characters, and its token has the characters inside. -/
  cut : ∀ s ∈ spans, ∃ before after, line = before ++ s.2.2.text ++ after ∧
    s.1 = before.byteLength ∧ s.2.1 = (before ++ s.2.2.text).byteLength

/-- The slice of the line between the ends of a span is the text of its token. -/
theorem Tiles.slice? {line : Text} {spans : List (Nat × Nat × Token)} (tiles : Tiles line spans)
    {s : Nat × Nat × Token} (mem : s ∈ spans) : line.slice? s.1 s.2.1 = some s.2.2.text := by
  obtain ⟨before, after, split, start, stop⟩ := tiles.cut s mem
  rw [start, stop, Text.byteLength_append, Text.slice?_of_split split.symm]

variable (start : Nat) (tokens : List Token)

/-- The first span starts where the spans do. -/
theorem head?_spansFrom : ∀ s ∈ (spansFrom start tokens).head?, s.1 = start := by
  cases tokens <;> simp [spansFrom]

/-- Each span starts where the one before it ends. -/
theorem isChain_spansFrom : (spansFrom start tokens).IsChain fun s t => s.2.1 = t.1 := by
  induction tokens generalizing start with
  | nil => exact .nil
  | cons token rest ih =>
    rw [spansFrom, List.isChain_cons]
    exact ⟨fun t ht => (head?_spansFrom _ _ t ht).symm, ih _⟩

/-- The last span ends after all the characters. -/
theorem getLast?_spansFrom : ((spansFrom start tokens).getLast?.map fun s => s.2.1).getD start =
    start + Text.byteLength (tokens.flatMap Token.text) := by
  induction tokens generalizing start with
  | nil => simp [spansFrom, Text.byteLength]
  | cons token rest ih =>
    have later := ih (start + token.text.byteLength)
    rw [spansFrom, List.getLast?_cons, List.flatMap_cons, Text.byteLength_append, ← Nat.add_assoc,
      ← later]
    cases (spansFrom (start + token.text.byteLength) rest).getLast? <;> rfl

/-- Spans of tokens with characters are not empty. -/
theorem lt_of_mem_spansFrom (nonempty : ∀ token ∈ tokens, token.text ≠ []) :
    ∀ s ∈ spansFrom start tokens, s.1 < s.2.1 := by
  induction tokens generalizing start with
  | nil => simp [spansFrom]
  | cons token rest ih =>
    have here := Text.byteLength_pos (nonempty token List.mem_cons_self)
    have later := ih (start + token.text.byteLength)
      fun t ht => nonempty t (List.mem_cons_of_mem _ ht)
    rw [spansFrom, List.forall_mem_cons]
    exact ⟨Nat.lt_add_of_pos_right here, later⟩

/-- Each span holds the characters of its token, at their place behind what comes before. -/
theorem cut_spansFrom (before : Text) (placed : start = before.byteLength) :
    ∀ s ∈ spansFrom start tokens, ∃ prior after,
      before ++ tokens.flatMap Token.text = prior ++ s.2.2.text ++ after ∧
        s.1 = prior.byteLength ∧ s.2.1 = (prior ++ s.2.2.text).byteLength := by
  induction tokens generalizing start before with
  | nil => simp [spansFrom]
  | cons token rest ih =>
    have later := ih (start + token.text.byteLength) (before ++ token.text)
      (by rw [Text.byteLength_append, placed])
    rw [spansFrom, List.forall_mem_cons, List.flatMap_cons]
    refine ⟨⟨before, rest.flatMap Token.text, ?_, placed, ?_⟩, ?_⟩
    · rw [List.append_assoc]
    · rw [Text.byteLength_append, placed]
    · rwa [List.append_assoc] at later

/-- **The spans of tokens with characters cut the text of the tokens into pieces.** -/
theorem tiles_spans (nonempty : ∀ token ∈ tokens, token.text ≠ []) :
    Tiles (tokens.flatMap Token.text) (spans tokens) where
  first := head?_spansFrom 0 tokens
  joined := isChain_spansFrom 0 tokens
  last := by
    have := getLast?_spansFrom 0 tokens
    rwa [Nat.zero_add] at this
  nonempty := lt_of_mem_spansFrom 0 tokens nonempty
  cut := cut_spansFrom 0 tokens [] rfl

/-! ## Joining neighbours of kind `text` -/

/-- Two tokens that should have been joined are not neighbours. -/
def Apart (a b : Token) : Prop := ¬(a.kind = .text ∧ b.kind = .text)

/-- The mode after tokens that were read in mode `before`. -/
def modeAfter (before : Mode) (tokens : List Token) : Mode :=
  (tokens.getLast?.map Token.mode).getD before

/-- Pieces of kind `text` leave the mode alone: each has the mode of the piece before it, and
the first one that of `before`. -/
def KeepsMode : Mode → List Token → Prop
  | _, [] => True
  | before, token :: rest => (token.kind = .text → token.mode = before) ∧ KeepsMode token.mode rest

/-- The mode after several tokens is the mode after all but the first. -/
theorem modeAfter_cons (before : Mode) (token : Token) (rest : List Token) :
    modeAfter before (token :: rest) = modeAfter token.mode rest := by
  rw [modeAfter, List.getLast?_cons, modeAfter]
  cases rest.getLast? <;> rfl

section Attach

variable (token : Token) {others : List Token}

/-- Attaching a token puts its characters in front. -/
theorem text_attach (others : List Token) :
    (attach token others).flatMap Token.text = token.text ++ others.flatMap Token.text := by
  cases others with
  | nil => rfl
  | cons next rest =>
    rw [attach]
    split
    · simp only [List.flatMap_cons, List.append_assoc]
    · rfl

/-- Attaching a token with characters leaves no token without. -/
theorem nonempty_attach (here : token.text ≠ []) (there : ∀ t ∈ others, t.text ≠ []) :
    ∀ t ∈ attach token others, t.text ≠ [] := by
  cases others with
  | nil => simpa [attach] using here
  | cons next rest =>
    rw [List.forall_mem_cons] at there
    rw [attach]
    split
    · rw [List.forall_mem_cons]
      exact ⟨List.append_ne_nil_of_left_ne_nil here _, there.2⟩
    · rw [List.forall_mem_cons, List.forall_mem_cons]
      exact ⟨here, there⟩

/-- Attaching a token joins it where it has to be joined. -/
theorem isChain_attach (apart : others.IsChain Apart) : (attach token others).IsChain Apart := by
  cases others with
  | nil => exact .singleton _
  | cons next rest =>
    rw [attach]
    split
    · -- The joined token is of kind `text` like `next`, so it stands apart from the same tokens.
      rename_i both
      rw [List.isChain_cons] at apart ⊢
      refine ⟨fun t ht pair => ?_, apart.2⟩
      exact apart.1 t ht ⟨both.2, pair.2⟩
    · rename_i apartHere
      rw [List.isChain_cons]
      refine ⟨fun t ht => ?_, apart⟩
      obtain rfl : next = t := by simpa using ht
      exact apartHere

/-- Attaching a token that leaves the mode alone where it should keeps that so, and the mode after
all of them is the same as before joining. -/
theorem keepsMode_attach {before : Mode} (here : token.kind = .text → token.mode = before)
    (there : KeepsMode token.mode others) :
    KeepsMode before (attach token others) ∧
      modeAfter before (attach token others) = modeAfter token.mode others := by
  cases others with
  | nil => exact ⟨⟨here, trivial⟩, modeAfter_cons before token []⟩
  | cons next rest =>
    rw [attach]
    split
    · rename_i both
      have same : next.mode = token.mode := there.1 both.2
      have rest_keeps : KeepsMode token.mode rest := same ▸ there.2
      refine ⟨⟨here, rest_keeps⟩, ?_⟩
      rw [modeAfter_cons, modeAfter_cons, same]
    · exact ⟨⟨here, there⟩, modeAfter_cons before token (next :: rest)⟩

end Attach

/-- A token that is not left over is joined with nothing. -/
theorem joinText_cons_of_ne_text {token : Token} (other : token.kind ≠ .text)
    (others : List Token) : joinText (token :: others) = token :: joinText others := by
  unfold joinText
  rw [List.foldr_cons]
  cases others.foldr attach [] with
  | nil => rfl
  | cons next rest => exact if_neg fun both => other both.1

section Neighbours

variable {token next : Token}

/-- A run of kind `text` may be joined from its start. -/
theorem joinText_cons_cons_of_text (both : token.kind = .text ∧ next.kind = .text)
    (others : List Token) :
    joinText (token :: next :: others) =
      joinText ({ token with text := token.text ++ next.text } :: others) := by
  change attach token (attach next (joinText others)) = attach _ (joinText others)
  cases joinText others with
  | nil => exact if_pos both
  | cons third later =>
    by_cases third_text : third.kind = .text
    · rw [attach, if_pos ⟨both.2, third_text⟩, attach, if_pos both, attach,
        if_pos ⟨both.1, third_text⟩, List.append_assoc]
    · rw [attach, if_neg fun h => third_text h.2, attach, if_pos both, attach,
        if_neg fun h => third_text h.2]

/-- Neighbours that are not both of kind `text` stay apart. -/
theorem joinText_cons_cons_of_apart (apart : token.Apart next) (others : List Token) :
    joinText (token :: next :: others) = token :: joinText (next :: others) := by
  change attach token (attach next (joinText others)) = token :: attach next (joinText others)
  cases joinText others with
  | nil => exact if_neg apart
  | cons third later =>
    rw [attach]
    split_ifs with merged
    · exact if_neg apart
    · exact if_neg apart

end Neighbours

/-- Joining keeps the characters. -/
theorem text_joinText : (joinText tokens).flatMap Token.text = tokens.flatMap Token.text := by
  induction tokens with
  | nil => rfl
  | cons token rest ih =>
    rw [joinText, List.foldr_cons, ← joinText, text_attach, ih, List.flatMap_cons]

/-- Joining tokens with characters leaves no token without. -/
theorem nonempty_joinText {tokens : List Token} (nonempty : ∀ token ∈ tokens, token.text ≠ []) :
    ∀ token ∈ joinText tokens, token.text ≠ [] := by
  induction tokens with
  | nil => simp [joinText]
  | cons token rest ih =>
    rw [List.forall_mem_cons] at nonempty
    exact nonempty_attach token nonempty.1 (ih nonempty.2)

/-- No two neighbours are left to be joined. -/
theorem isChain_joinText : (joinText tokens).IsChain Apart := by
  induction tokens with
  | nil => exact .nil
  | cons token rest ih => exact isChain_attach token ih

/-- Joining pieces that leave the mode alone where they should keeps that so, and keeps the mode
after them. -/
theorem keepsMode_joinText {before : Mode} {tokens : List Token} (keeps : KeepsMode before tokens) :
    KeepsMode before (joinText tokens) ∧
      modeAfter before (joinText tokens) = modeAfter before tokens := by
  induction tokens generalizing before with
  | nil => exact ⟨trivial, rfl⟩
  | cons token rest ih =>
    obtain ⟨rest_keeps, rest_after⟩ := ih keeps.2
    obtain ⟨all_keeps, all_after⟩ := keepsMode_attach token keeps.1 rest_keeps
    refine ⟨all_keeps, ?_⟩
    rw [modeAfter_cons, ← rest_after]
    exact all_after

end Token

/-! ## Cutting a line -/

namespace Vocabulary

variable (v : Vocabulary) (state : LineState) (atStart : Bool) (line : Text)

/-- The pieces of a line are its characters. -/
theorem text_scan : (v.scan state atStart line).1.flatMap Token.text = line := by
  fun_induction scan with
  | case1 => rfl
  | case2 state atStart c rest found next token after ih =>
    calc (token :: after.1).flatMap Token.text
        = (c :: rest).take found.length ++ after.1.flatMap Token.text := List.flatMap_cons
      _ = (c :: rest).take found.length ++ (c :: rest).drop found.length := by rw [ih]
      _ = c :: rest := List.take_append_drop _ _

/-- Every piece has a character, since every rule takes one. -/
theorem nonempty_scan : ∀ token ∈ (v.scan state atStart line).1, token.text ≠ [] := by
  fun_induction scan with
  | case1 => simp
  | case2 state atStart c rest found next token after ih =>
    rw [List.forall_mem_cons]
    refine ⟨?_, ih⟩
    have some_length := found.positive
    simp only [token, ne_eq, List.take_eq_nil_iff]
    rintro (none | none)
    · omega
    · cases none

/-- Pieces of kind `text` leave the mode alone, and the mode after the pieces is the mode of the
state after them. -/
theorem keepsMode_scan : Token.KeepsMode state.mode (v.scan state atStart line).1 ∧
    Token.modeAfter state.mode (v.scan state atStart line).1 =
      (v.scan state atStart line).2.mode := by
  fun_induction scan with
  | case1 => exact ⟨trivial, rfl⟩
  | case2 state atStart c rest found next token after ih =>
    refine ⟨⟨fun text => ?_, ih.1⟩, ?_⟩
    · have stay := (rule_matchAt v atStart c rest state.mode).stay_of_text text
      change (state.apply found.effect).mode = state.mode
      rw [stay]
      rfl
    · rw [Token.modeAfter_cons]
      exact ih.2

/-! ## Lines in a row -/

/-- The state after lines that are read in order from a state. -/
def stateAfter (state : LineState) (lines : List Text) : LineState :=
  lines.foldl (fun state line => (v.tokenizeLine line state).state) state

/-- The tokens of a line are its characters. -/
theorem text_tokenizeLine : (v.tokenizeLine line state).text = line :=
  (Token.text_joinText _).trans (v.text_scan state.nextLine true line)

/-- The tokens of lines are the characters of the lines. -/
theorem text_tokenizeLines (lines : List Text) :
    (v.tokenizeLines state lines).map LineTokens.text = lines := by
  induction lines generalizing state with
  | nil => rfl
  | cons line lines ih => rw [tokenizeLines, List.map_cons, text_tokenizeLine, ih]

/-- Every token of lines has a character. -/
theorem nonempty_tokenizeLines (lines : List Text) :
    ∀ l ∈ v.tokenizeLines state lines, ∀ token ∈ l.tokens, token.text ≠ [] := by
  induction lines generalizing state with
  | nil => simp [tokenizeLines]
  | cons line lines ih =>
    rw [tokenizeLines, List.forall_mem_cons]
    exact ⟨Token.nonempty_joinText (v.nonempty_scan state.nextLine true line), ih _⟩

end Vocabulary

end StepScript
