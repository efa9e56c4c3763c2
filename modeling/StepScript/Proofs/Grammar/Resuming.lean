import Mathlib
import StepScript.Proofs.Grammar.Layers

/-!
# Reading goes on behind any token

**Why.** A statement about one token of a line is about the rule that made it, in the state in which
it was made. Between the rules and the tokens stands the joining of left-over text, and the states
in the middle of a line are not part of what is read. This file finds both again: where the tokens of
a line are cut in two, those behind the cut are the tokens of a rest of the line, read in some state
(`Vocabulary.exists_resumes`), so statements about every token are statements about the first one.

**What is known of that state.** Lines start in the states that lines leave (`LineState.Reachable`), so
it has at most three layers. Its mode is the one recorded with the
last token before the cut. And the mode around an open literal is the last one recorded that is not
a literal's (`Token.enclosing`), since inside a literal nothing but its end changes the mode.
-/

namespace StepScript

/-- Whether a mode is that of a literal. -/
def Mode.isLiteral : Mode → Bool
  | literal _ => true
  | _ => false

namespace LineState

/-- The states in which a line can start: those after lines, whatever the vocabulary was under which
each of these was read. -/
inductive Reachable : LineState → Prop
  | initial : Reachable .initial
  | line {s : LineState} (before : s.Reachable) (v : Vocabulary) (line : Text) :
      Reachable (v.tokenizeLine line s).state

/-- A line starts with at most three layers, and no row is open outside a literal. -/
theorem Reachable.layered_nextLine {s : LineState} (reachable : s.Reachable) :
    s.nextLine.Layered true := by
  have layered : ∃ atEnd, s.Layered atEnd := by
    induction reachable with
    | initial => exact ⟨true, layered_initial⟩
    | line before v line ih => exact v.layered_tokenizeLine line ih.choose_spec
  exact LineState.layered_nextLine layered.choose_spec

/-- The state without the literal that is open in it, if one is. -/
def outside (s : LineState) : LineState := if s.mode.isLiteral then s.leave else s

variable (row : Option Row) (d : Delimiter)

/-- Outside literals the mode is none of a literal. -/
@[simp] theorem isLiteral_mode_layers_none : (layers row none).mode.isLiteral = false := by
  cases row <;> rfl

/-- Outside the literal there is the row that is around it. -/
@[simp] theorem outside_layers (inside : Option Delimiter) :
    (layers row inside).outside = layers row none := by
  cases inside with
  | none => simp [outside]
  | some d => simp [outside, Mode.isLiteral]

/-- Outside literals the mode in effect is the one around. -/
theorem ite_mode_outside (s : LineState) :
    (if s.mode.isLiteral then s.outside.mode else s.mode) = s.outside.mode := by
  unfold outside
  split <;> rfl

variable {v : Vocabulary} {atStart : Bool} {c : Char} {rest : Text} {m : Match}

/-- A rule that does not end outside literals leaves what is around the literal alone. -/
theorem mode_outside_apply {s : LineState} (layered : s.Layered atStart)
    (rule : Rule v atStart c rest s.mode m) :
    (s.apply m.effect).outside.mode =
      if (s.apply m.effect).mode.isLiteral then s.outside.mode else (s.apply m.effect).mode := by
  obtain ⟨row, _ | d, rfl, start⟩ := layered
  · have start : atStart = true → row = none := fun h => (start h).resolve_right (by simp)
    rcases effect_outside rule start with stay | ⟨rfl, r, enter⟩ | ⟨d, enter⟩
    · simp [stay, apply]
    · simp [enter, apply, Mode.isLiteral]
    · simp [enter, apply, Mode.isLiteral]
  · rcases rule.effect_inside with stay | leave
    · simp [stay, apply, Mode.isLiteral]
    · simp [leave, apply]

end LineState

namespace Token

/-- The mode around the literal that is open behind some tokens, and the mode in effect if none is:
the last mode recorded that is not a literal's, or `outer` if there is none. -/
def enclosing (outer : Mode) (tokens : List Token) : Mode :=
  (((tokens.map Token.mode).filter (!·.isLiteral)).getLast?).getD outer

/-- A first token says what is around the others, unless it is inside a literal. -/
theorem enclosing_cons (outer : Mode) (token : Token) (rest : List Token) :
    enclosing outer (token :: rest) =
      enclosing (if token.mode.isLiteral then outer else token.mode) rest := by
  unfold enclosing
  rw [List.map_cons]
  by_cases literal : token.mode.isLiteral = true
  · simp [literal]
  · simp [literal, List.getLast?_cons]

/-- A token in front of others is the first one, or is joined with the one that was. -/
theorem attach_eq_cons {token first : Token} {others rest : List Token}
    (h : attach token others = first :: rest) :
    (first = token ∧ rest = others) ∨
      ∃ next, others = next :: rest ∧ token.kind = .text ∧ next.kind = .text ∧
        first = { token with text := token.text ++ next.text } := by
  cases others with
  | nil =>
    simp only [attach, List.cons.injEq] at h
    exact .inl ⟨h.1.symm, h.2.symm⟩
  | cons next more =>
    rw [attach] at h
    split at h
    · rename_i both
      simp only [List.cons.injEq] at h
      exact .inr ⟨next, by rw [h.2], both.1, both.2, h.1.symm⟩
    · simp only [List.cons.injEq] at h
      exact .inl ⟨h.1.symm, h.2.symm⟩

end Token

/-- The token that a match makes of the line at which it was found. -/
def Match.token (m : Match) (s : LineState) (line : Text) : Token :=
  ⟨line.take m.length, m.kind, (s.apply m.effect).mode⟩

namespace Vocabulary

/-- One step of reading. -/
theorem scan_cons {v : Vocabulary} {s : LineState} {atStart : Bool} {c : Char} {rest : Text}
    {m : Match} (found : v.matchAt s.mode atStart c rest = m) :
    v.scan s atStart (c :: rest) =
      (m.token s (c :: rest) ::
          (v.scan (s.apply m.effect) false ((c :: rest).drop m.length)).1,
        (v.scan (s.apply m.effect) false ((c :: rest).drop m.length)).2) := by
  subst found
  rw [scan]
  rfl

/-- The tokens `tokens` of a line are those of its rest, read in the state `here`. The line began in
the state `start`, and `before` are its tokens in front of these. -/
structure Resumes (v : Vocabulary) (start : LineState) (atStart : Bool) (line : Text)
    (before tokens : List Token) (here : LineState) (atHere : Bool) (rest : Text) : Prop where
  line_eq : line = before.flatMap Token.text ++ rest
  /-- The rest is the whole line if nothing is in front of it. -/
  atHere_eq : atHere = (atStart && before.isEmpty)
  layered : here.Layered atHere
  mode_eq : here.mode = Token.modeAfter start.mode before
  outside_eq : here.outside.mode = Token.enclosing start.outside.mode before
  tokens_eq : Token.joinText (v.scan here atHere rest).1 = tokens
  state_eq : (v.scan here atHere rest).2 = (v.scan start atStart line).2

variable {v : Vocabulary} {start : LineState} {atStart : Bool} {line : Text} {token : Token}
  {after : List Token}

/-- **Reading goes on behind any token.** -/
theorem exists_resumes : start.Layered atStart → ∀ before,
    Token.joinText (v.scan start atStart line).1 = before ++ token :: after →
      ∃ here atHere rest,
        v.Resumes start atStart line before (token :: after) here atHere rest := by
  induction start, atStart, line using scan.induct v with
  | case1 s atStart =>
    intro _ before split
    simp [scan, Token.joinText] at split
  | case2 s atStart c rest found next ih =>
    intro layered before split
    cases before with
    | nil => exact ⟨s, atStart, c :: rest, rfl, by simp, layered, rfl, rfl, split, rfl⟩
    | cons first before =>
      have rule : Rule v atStart c rest s.mode found := rule_matchAt v atStart c rest s.mode
      have around := LineState.mode_outside_apply layered rule
      have whole : (c :: rest).take found.length ++ (c :: rest).drop found.length = c :: rest :=
        List.take_append_drop _ _
      have further := ih (LineState.layered_apply layered rule)
      have keeps := (Token.keepsMode_joinText
        (v.keepsMode_scan next false ((c :: rest).drop found.length)).1).1
      rw [scan_cons rfl] at split
      -- The cut is behind the first token, so it is a cut of what is read behind the first piece.
      -- If the first token is joined from several pieces, it has the mode of each of them.
      rcases Token.attach_eq_cons split with ⟨rfl, later⟩ | ⟨joined, later, -, text, rfl⟩
      · obtain ⟨here, atHere, rest', r⟩ := further before later.symm
        refine ⟨here, atHere, rest', ?_, ?_, r.layered, ?_, ?_, r.tokens_eq, ?_⟩
        · rw [List.flatMap_cons, List.append_assoc, ← r.line_eq]
          exact whole.symm
        · simpa using r.atHere_eq
        · rw [Token.modeAfter_cons, r.mode_eq]
          rfl
        · rw [Token.enclosing_cons, r.outside_eq, around]
          rfl
        · rw [r.state_eq, scan_cons rfl]
      · obtain ⟨here, atHere, rest', r⟩ := further (joined :: before) later
        have joined_first : Token.joinText (v.scan next false ((c :: rest).drop found.length)).1 =
            joined :: (before ++ token :: after) := later
        rw [joined_first] at keeps
        have same : joined.mode = next.mode := keeps.1 text
        refine ⟨here, atHere, rest', ?_, ?_, r.layered, ?_, ?_, r.tokens_eq, ?_⟩
        · have line_eq := r.line_eq
          rw [List.flatMap_cons, List.append_assoc] at line_eq
          rw [List.flatMap_cons, List.append_assoc, List.append_assoc, ← line_eq]
          exact whole.symm
        · simpa using r.atHere_eq
        · rw [r.mode_eq, Token.modeAfter_cons, Token.modeAfter_cons, same]
          rfl
        · rw [r.outside_eq, Token.enclosing_cons, Token.enclosing_cons, same,
            LineState.ite_mode_outside, around]
          rfl
        · rw [r.state_eq, scan_cons rfl]

namespace Resumes

variable {before : List Token} {here : LineState} {atHere : Bool} {rest : Text}

/-- What the cut leaves of the line has characters, since a token has. -/
theorem rest_ne_nil (r : v.Resumes start atStart line before (token :: after) here atHere rest) :
    rest ≠ [] := by
  rintro rfl
  have tokens_eq := r.tokens_eq
  simp [scan, Token.joinText] at tokens_eq

/-- **The token behind the cut** is made by the match at the character behind it. Only text may be
joined to it. -/
theorem first {c : Char}
    (r : v.Resumes start atStart line before (token :: after) here atHere (c :: rest)) :
    let found := v.matchAt here.mode atHere c rest
    token.kind = found.kind ∧ token.mode = (here.apply found.effect).mode ∧
      (found.kind ≠ .text → token = found.token here (c :: rest) ∧
        after = Token.joinText (v.scan (here.apply found.effect) false
          ((c :: rest).drop found.length)).1) := by
  intro found
  have tokens_eq := r.tokens_eq
  rw [scan_cons rfl] at tokens_eq
  rcases Token.attach_eq_cons tokens_eq with ⟨rfl, later⟩ | ⟨joined, -, text, -, rfl⟩
  · exact ⟨rfl, rfl, fun _ => ⟨rfl, later⟩⟩
  · exact ⟨rfl, rfl, fun other => absurd text other⟩

end Resumes

end Vocabulary

end StepScript
