import Mathlib
import StepScript.Proofs.Grammar.Resuming

/-!
# Which tokens stand where

**Places.** The kind of a token says where in its line it can stand. Headings, keywords, strong lines,
comments and bars begin a line; tags, strong lines, comments and unclosed literals end it; emphasis
stands in the root mode and text in rows; an identifier begins a line or stands behind a keyword; and
in a literal there are only pieces of it (`Token.InPlace`).

**Modes.** The mode recorded with a token is the one before it, unless the token is a keyword, a bar,
or a delimiter that opens or closes a literal (`Token.Turns`). A literal that is closed gives way to
the mode around it.

Each of these is a property of the rules (`Rule.atStart_of_begins` and those after it), and the rule
that makes a token is found again at the cut in front of it (`Vocabulary.exists_resumes`). That the
rules for the start of a line are tried in the root mode only is where the form of the states comes
in: after a line end no row is open outside a literal (`LineState.Layered`).
-/

namespace StepScript

open Scan

namespace TokenKind

/-- The kinds of tokens that begin their line. -/
def begins : List TokenKind := [heading, keyword, strong, comment, operator]

/-- The kinds of tokens that end their line. -/
def ends : List TokenKind := [tag, strong, comment, stringInvalid]

/-- The kinds of the pieces of a literal. -/
def pieces : List TokenKind := [string, stringEscape, stringEscapeInvalid]

end TokenKind

/-! ## What the rules say -/

namespace Rule

variable {v : Vocabulary} {atStart : Bool} {c : Char} {rest : Text} {mode : Mode} {m : Match}

/-- A token that begins its line is made at the start of the line, outside literals. -/
theorem atStart_of_begins (rule : Rule v atStart c rest mode m) (begins : m.kind ∈ TokenKind.begins) :
    atStart = true ∧ mode.isLiteral = false := by
  cases rule with
  | heading at_start | keyword at_start => exact ⟨at_start, rfl⟩
  | shared outside rule =>
    have outside : mode.isLiteral = false := by
      cases mode with
      | literal d => exact absurd rfl (outside d)
      | _ => rfl
    cases rule with
    | strong at_start | bar at_start | comment at_start => exact ⟨at_start, outside⟩
    | _ => simp [TokenKind.begins, Match.through, Match.one] at begins
  | _ => simp [TokenKind.begins, Match.through, Match.one] at begins

/-- A token that ends its line takes all that is left of it. -/
theorem length_of_ends (rule : Rule v atStart c rest mode m) (ends : m.kind ∈ TokenKind.ends) :
    m.length = rest.length + 1 := by
  cases rule with
  | shared outside rule =>
    cases rule with
    | strong | comment | tag | unclosed => rfl
    | _ => simp [TokenKind.ends, Match.one] at ends
  | heading =>
    dsimp only at ends
    split at ends <;> simp [TokenKind.ends] at ends
  | emphasis => rfl
  | _ => simp [TokenKind.ends, Match.one] at ends

/-- Emphasis is made in the root mode. -/
theorem mode_of_emphasis (rule : Rule v atStart c rest mode m) (emphasis : m.kind = .emphasis) :
    mode = .root := by
  cases rule with
  | shared outside rule => cases rule <;> cases emphasis
  | heading | word | emphasis | keyword => rfl
  | _ => cases emphasis

/-- Text is made in rows. -/
theorem mode_of_text (rule : Rule v atStart c rest mode m) (text : m.kind = .text) :
    ∃ row, mode = .row row := by
  cases rule with
  | text row => exact ⟨row, rfl⟩
  | identifier => exact ⟨.operator, rfl⟩
  | shared outside rule => exact absurd text rule.kind_ne_text
  | heading =>
    dsimp only at text
    split at text <;> cases text
  | _ => cases text

/-- An identifier is made behind a keyword, or at the start of a line in the root mode. -/
theorem mode_of_identifier (rule : Rule v atStart c rest mode m) (identifier : m.kind = .identifier) :
    mode = .row .operator ∨ (atStart = true ∧ mode = .root) := by
  cases rule with
  | heading at_start => exact .inr ⟨at_start, rfl⟩
  | identifier => exact .inl rfl
  | shared outside rule => cases rule <;> cases identifier
  | _ => cases identifier

/-- Inside a literal there are only pieces of it. -/
theorem kind_inside {d : Delimiter} (rule : Rule v atStart c rest (.literal d) m) :
    m.kind ∈ TokenKind.pieces := by
  cases rule with
  | shared outside rule => exact absurd rfl (outside d)
  | close | escape | escapeInvalid | plain => simp [TokenKind.pieces, Match.one]

end Rule

/-! ## What becomes of the mode -/

/-- How the mode may change at a token: it was `mode` before, and `around` is the mode around the
literal if one was open. -/
inductive Token.Turns (around mode : Mode) (token : Token) : Prop
  | stays (same : token.mode = mode) (other : token.kind ≠ .keyword ∧ token.kind ≠ .operator)
  | keyword (kind : token.kind = .keyword) (before : mode = .root)
      (after : token.mode = .row .operator)
  | bar (kind : token.kind = .operator) (before : mode = .root) (after : token.mode = .row .params)
  | opening (d : Delimiter) (kind : token.kind = .string) (sign : token.text = [d.opening])
      (before : ∀ e, mode ≠ .literal e) (after : token.mode = .literal d)
  | closing (d : Delimiter) (kind : token.kind = .string) (sign : token.text = [d.closing])
      (before : mode = .literal d) (after : token.mode = around)

/-- At the start of a line, outside literals, no row is open. -/
theorem LineState.Layered.mode_eq_root {s : LineState} (layered : s.Layered true)
    (outside : ∀ d, s.mode ≠ .literal d) : s.mode = .root := by
  obtain ⟨row, _ | d, rfl, start⟩ := layered
  · rcases start rfl with rfl | inside
    · rfl
    · exact absurd rfl inside
  · exact absurd rfl (outside d)

/-- **What a rule does to the mode**, as the token records it that the rule makes. -/
theorem Rule.turns {v : Vocabulary} {s : LineState} {atStart : Bool} {c : Char} {rest : Text}
    {m : Match} (rule : Rule v atStart c rest s.mode m) (layered : s.Layered atStart) :
    (m.token s (c :: rest)).Turns s.outside.mode s.mode := by
  generalize mode_eq : s.mode = mode at rule
  cases rule with
  | keyword => exact .keyword rfl rfl rfl
  | close d sign =>
    refine .closing d rfl (congrArg (fun x => [x]) sign) rfl ?_
    simp [Match.token, Match.one, LineState.apply, LineState.outside, mode_eq, Mode.isLiteral]
  | shared outside rule =>
    rw [← mode_eq] at outside ⊢
    cases rule with
    | bar start =>
      subst start
      exact .bar rfl (layered.mode_eq_root outside) rfl
    | opening d sign => exact .opening d rfl (congrArg (fun x => [x]) sign) outside rfl
    | strong | comment | tag | white | number | unclosed =>
      exact .stays rfl (by simp [Match.token, Match.through])
  | heading =>
    refine .stays mode_eq ?_
    dsimp only [Match.token]
    split <;> decide
  | word | emphasis | identifier | text | escape | escapeInvalid | plain =>
    exact .stays mode_eq (by simp [Match.token, Match.one, Match.through])

/-! ## Lines -/

/-- What a token's place in its line must be. The line begins in the mode `start`, `outer` is the mode
around the literal that is open then, and the tokens before and behind are `before` and `after`. -/
structure Token.InPlace (outer start : Mode) (before : List Token) (token : Token)
    (after : List Token) : Prop where
  /-- Some tokens only begin a line that does not begin inside a literal. -/
  begins : token.kind ∈ TokenKind.begins → before = [] ∧ ∀ d, start ≠ .literal d
  /-- Some tokens only end a line. -/
  ends : token.kind ∈ TokenKind.ends → after = []
  emphasis : token.kind = .emphasis → modeAfter start before = .root
  text : token.kind = .text → ∃ row, modeAfter start before = .row row
  identifier : token.kind = .identifier →
    modeAfter start before = .row .operator ∨ (before = [] ∧ modeAfter start before = .root)
  /-- Inside a literal there are only its pieces. -/
  literal : ∀ d, modeAfter start before = .literal d → token.kind ∈ TokenKind.pieces
  mode : token.Turns (enclosing outer before) (modeAfter start before)

namespace Vocabulary

variable (v : Vocabulary)

/-- **Each token stands in its place.** In a line that follows any others, a token that begins or ends
a line does so; emphasis, text, identifiers and the pieces of literals are in their modes; and the mode
changes only at keywords, at bars and at the delimiters of literals. -/
theorem tokens_in_place {state : LineState} (reachable : state.Reachable) (line : Text)
    (before : List Token) (token : Token) (after : List Token)
    (split : (v.tokenizeLine line state).tokens = before ++ token :: after) :
    token.InPlace state.nextLine.outside.mode state.nextLine.mode before after := by
  set start := state.nextLine with start_eq
  have layered : start.Layered true := reachable.layered_nextLine
  obtain ⟨here, atHere, rest, r⟩ := exists_resumes layered before split
  cases rest with
  | nil => exact absurd rfl r.rest_ne_nil
  | cons c rest =>
    obtain ⟨kind, mode, made⟩ := r.first
    have rule := rule_matchAt v atHere c rest here.mode
    have first_of : atHere = true → before = [] := fun at_start => by
      simpa [at_start] using r.atHere_eq
    refine ⟨?_, ?_, ?_, ?_, ?_, ?_, ?_⟩
    · intro begins
      rw [kind] at begins
      obtain ⟨at_start, outside⟩ := rule.atStart_of_begins begins
      have none_before := first_of at_start
      refine ⟨none_before, fun d literal => ?_⟩
      rw [r.mode_eq, none_before] at outside
      change start.mode.isLiteral = false at outside
      simp [literal, Mode.isLiteral] at outside
    · intro ends
      rw [kind] at ends
      have other : (v.matchAt here.mode atHere c rest).kind ≠ .text := by
        intro text
        simp [text, TokenKind.ends] at ends
      rw [(made other).2, rule.length_of_ends ends]
      simp [scan, Token.joinText]
    · intro emphasis
      rw [← r.mode_eq]
      exact rule.mode_of_emphasis (kind.symm.trans emphasis)
    · intro text
      rw [← r.mode_eq]
      exact rule.mode_of_text (kind.symm.trans text)
    · intro identifier
      rw [← r.mode_eq]
      exact (rule.mode_of_identifier (kind.symm.trans identifier)).imp_right
        fun root => ⟨first_of root.1, root.2⟩
    · intro d literal
      rw [← r.mode_eq] at literal
      rw [literal] at rule kind
      rw [kind]
      exact rule.kind_inside
    · rw [← r.mode_eq, ← r.outside_eq]
      by_cases text : (v.matchAt here.mode atHere c rest).kind = .text
      · refine .stays ?_ (by simp [kind, text])
        rw [mode, rule.stay_of_text text]
        rfl
      · rw [(made text).1]
        exact rule.turns r.layered

/-- The state after a line that leaves a literal open behind a keyword. -/
def openLiteral : LineState :=
  (({ empty with keywords := [["given".toList]] } : Vocabulary).tokenizeLine
    "Given 'a\\".toList .initial).state

/-- The state is left behind by one line. -/
theorem reachable_openLiteral : openLiteral.Reachable := .line .initial _ _

/-- The literal is closed on the next line, and the row of the keyword is in effect again. -/
theorem tokens_in_place_openLiteral :
    openLiteral.Reachable ∧
      (empty.tokenizeLine "b' 7".toList openLiteral).tokens =
        [⟨"b".toList, .string, .literal .single⟩] ++ ⟨"'".toList, .string, .row .operator⟩ ::
          [⟨" ".toList, .white, .row .operator⟩, ⟨"7".toList, .number, .row .operator⟩] ∧
      Token.InPlace (.row .operator) (.literal .single) [⟨"b".toList, .string, .literal .single⟩]
        ⟨"'".toList, .string, .row .operator⟩
        [⟨" ".toList, .white, .row .operator⟩, ⟨"7".toList, .number, .row .operator⟩] := by
  have split : (empty.tokenizeLine "b' 7".toList openLiteral).tokens =
      [⟨"b".toList, .string, .literal .single⟩] ++ ⟨"'".toList, .string, .row .operator⟩ ::
        [⟨" ".toList, .white, .row .operator⟩, ⟨"7".toList, .number, .row .operator⟩] := by
    decide +kernel
  have around : openLiteral.nextLine.outside.mode = .row .operator := by decide +kernel
  have inside : openLiteral.nextLine.mode = .literal .single := by decide +kernel
  have placed := empty.tokens_in_place reachable_openLiteral "b' 7".toList _ _ _ split
  rw [around, inside] at placed
  exact ⟨reachable_openLiteral, split, placed⟩

end Vocabulary

end StepScript
