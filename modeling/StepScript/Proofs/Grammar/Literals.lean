import Mathlib
import StepScript.Proofs.Grammar.Independence
import StepScript.Proofs.Grammar.LineStart
import StepScript.Proofs.Grammar.Places

/-!
# Where literals end, and which do not

**Units.** What stands behind the delimiter that opens a literal falls into pairs of a backslash and
its partner, and single characters (`Scan.units`). A delimiter that is the partner of a backslash is
escaped; one that is not ends the literal (`Scan.Unescaped`). Only a backslash at the very end may be
without a partner (`Scan.EndsUnpaired`), and it keeps the literal open for the next line.

**Two readers, one rule.** The look-ahead at an opening delimiter and the rules inside a literal are
both read in these terms. The look-ahead runs out exactly if no closing delimiter is unescaped and no
backslash is left over (`Scan.runsOut_iff`). The rules inside a literal take whole units, also where an
escape is invalid or cut short by the end of the line (`Rule.units_taken`), so the first of them that
meets the closing delimiter on its own meets the first one that is unescaped
(`Vocabulary.scan_inside`).

**Which literals are flagged.** No other rule applies at an opening delimiter outside literals
(`Vocabulary.matchAt_opening`), wherever in its line it stands. So a literal is flagged exactly if it
neither ends on its line nor is kept open, and one that is not flagged is entered and read to its end
(`Vocabulary.unclosed_literals_flagged`).
-/

namespace StepScript

namespace Scan

/-! ## Pairs and single characters -/

/-- A text, cut into pairs of a backslash and its partner, and single characters. -/
def units : Text → List Text
  | '\\' :: partner :: rest => ['\\', partner] :: units rest
  | c :: rest => [c] :: units rest
  | [] => []

/-- The text ends with a backslash that has no partner. -/
def EndsUnpaired (t : Text) : Prop := (units t).getLast? = some ['\\']

/-- Whether a text ends in a backslash without a partner can be computed. -/
instance (t : Text) : Decidable (EndsUnpaired t) := inferInstanceAs (Decidable (_ = _))

/-- The character stands somewhere outside the pairs. -/
def Unescaped (close : Char) (t : Text) : Prop := [close] ∈ units t

/-- Whether a character stands outside pairs can be computed. -/
instance (close : Char) (t : Text) : Decidable (Unescaped close t) :=
  inferInstanceAs (Decidable (_ ∈ _))

variable {c close : Char} {s t : Text}

/-- An empty text has no units. -/
@[simp] theorem units_nil : units [] = [] := rfl

/-- A backslash and its partner are a unit. -/
@[simp] theorem units_pair (partner : Char) (t : Text) :
    units ('\\' :: partner :: t) = ['\\', partner] :: units t := by
  rw [units]

/-- Any other character is a unit of its own. -/
theorem units_cons (h : c ≠ '\\') (t : Text) : units (c :: t) = [c] :: units t := by
  rw [units]
  simp [h]

/-- The units make up the text. -/
theorem flatten_units (t : Text) : (units t).flatten = t := by
  fun_induction units with
  | case1 partner rest ih => simp [ih]
  | case2 c rest other ih => simp [ih]
  | case3 => rfl

/-- An empty text does not end with a backslash. -/
@[simp] theorem not_endsUnpaired_nil : ¬ EndsUnpaired [] := by simp [EndsUnpaired]

/-- A pair at the start does not matter to the end. -/
@[simp] theorem endsUnpaired_pair (partner : Char) (t : Text) :
    EndsUnpaired ('\\' :: partner :: t) ↔ EndsUnpaired t := by
  unfold EndsUnpaired
  rw [units_pair, List.getLast?_cons]
  cases (units t).getLast? <;> simp

/-- Nor does any other character. -/
theorem endsUnpaired_cons (h : c ≠ '\\') (t : Text) : EndsUnpaired (c :: t) ↔ EndsUnpaired t := by
  unfold EndsUnpaired
  rw [units_cons h, List.getLast?_cons]
  cases (units t).getLast? <;> simp [h]

/-- **Where all backslashes have partners, a text can be cut.** -/
theorem units_append (paired : ¬ EndsUnpaired s) (t : Text) : units (s ++ t) = units s ++ units t := by
  fun_induction units s with
  | case1 partner rest ih =>
    rw [endsUnpaired_pair] at paired
    simp [ih paired]
  | case2 c rest other ih =>
    by_cases h : c = '\\'
    · subst h
      cases rest with
      | nil => exact absurd rfl paired
      | cons partner rest => exact absurd rfl (other partner rest rfl)
    · rw [endsUnpaired_cons h] at paired
      rw [List.cons_append, units_cons h, ih paired, List.cons_append]
  | case3 => rfl

/-- An empty text has no character outside pairs. -/
@[simp] theorem not_unescaped_nil : ¬ Unescaped close [] := by simp [Unescaped]

/-- A character in a pair is escaped. -/
@[simp] theorem unescaped_pair (partner : Char) (t : Text) :
    Unescaped close ('\\' :: partner :: t) ↔ Unescaped close t := by
  simp [Unescaped]

/-- A character that is no backslash is outside pairs, and changes nothing for those behind it. -/
theorem unescaped_cons (h : c ≠ '\\') (t : Text) :
    Unescaped close (c :: t) ↔ close = c ∨ Unescaped close t := by
  simp [Unescaped, units_cons h]

/-- Behind whole units, the characters outside pairs are those of both parts. -/
theorem unescaped_append (paired : ¬ EndsUnpaired s) (t : Text) :
    Unescaped close (s ++ t) ↔ Unescaped close s ∨ Unescaped close t := by
  rw [Unescaped, units_append paired, List.mem_append]
  rfl

/-- Whole units behind whole units are whole units. -/
theorem not_endsUnpaired_append (paired : ¬ EndsUnpaired s) (paired' : ¬ EndsUnpaired t) :
    ¬ EndsUnpaired (s ++ t) := by
  unfold EndsUnpaired at paired paired' ⊢
  rw [units_append paired, List.getLast?_append]
  cases last : (units t).getLast? with
  | none => simpa using paired
  | some unit => simpa [last] using paired'

/-- What stands outside the pairs stands in the text. -/
theorem mem_of_unescaped (h : Unescaped close t) : close ∈ t := by
  rw [← flatten_units t]
  exact List.mem_flatten_of_mem h List.mem_cons_self

/-- A text that ends without a partner ends with a backslash. -/
theorem getLast?_of_endsUnpaired (h : EndsUnpaired t) : t.getLast? = some '\\' := by
  obtain ⟨front, units_eq⟩ := List.getLast?_eq_some_iff.mp h
  rw [← flatten_units t, units_eq]
  simp

/-- **The look-ahead** says exactly whether no closing delimiter stands outside the pairs and no
backslash at the end is without a partner. -/
theorem runsOut_iff (d : Delimiter) (one_line : '\n' ∉ t) :
    runsOut d.closing t = true ↔ ¬ Unescaped d.closing t ∧ ¬ EndsUnpaired t := by
  fun_induction runsOut d.closing t with
  | case1 => simp
  | case2 => simp [EndsUnpaired, units]
  | case3 partner rest ih =>
    simp only [List.mem_cons, not_or] at one_line
    rw [unescaped_pair, endsUnpaired_pair, ← ih one_line.2.2]
    simp [Ne.symm one_line.2.1]
  | case4 c rest lone other ih =>
    have plain : c ≠ '\\' := by
      rintro rfl
      cases rest with
      | nil => exact lone rfl rfl
      | cons partner rest => exact other partner rest rfl rfl
    rw [List.mem_cons, not_or] at one_line
    rw [unescaped_cons plain, endsUnpaired_cons plain, not_or, and_assoc, ← ih one_line.2,
      Bool.and_eq_true, decide_eq_true_eq]
    exact and_congr_left' ne_comm

/-! ## At an opening delimiter -/

/-- A delimiter that opens a literal is neither blank nor a letter. -/
theorem solid_opening (d : Delimiter) :
    isBlank d.opening = false ∧ isAlphabetic d.opening = false := by
  cases d <;> decide

/-- At such a delimiter no shared rule applies before the one for literals. -/
theorem sharedMatch?_opening (atStart : Bool) (d : Delimiter) (rest : Text) :
    sharedMatch? atStart d.opening rest = some (openingMatch d rest) := by
  have other : d.opening ∉ ['@', '*', '|', '#', '/'] := by cases d <;> decide
  have number : numberLength (d.opening :: rest) = 0 := by
    apply numberLength_eq_zero <;> cases d <;> decide
  rw [sharedMatch?_of_plain (solid_opening d).1 other, number, Delimiter.ofOpening?_opening]
  rfl

end Scan

open Scan

/-! ## Reading on in a literal -/

/-- **A rule that stays in a literal** takes whole units, none of which is the closing delimiter. Only
at the end of the line may it take a backslash without a partner. -/
theorem Rule.units_taken {v : Vocabulary} {atStart : Bool} {c : Char} {rest : Text} {m : Match}
    {d : Delimiter} (rule : Rule v atStart c rest (.literal d) m) (stay : m.effect = .stay) :
    ¬ Unescaped d.closing ((c :: rest).take m.length) ∧
      (EndsUnpaired ((c :: rest).take m.length) → (c :: rest).drop m.length = []) := by
  cases rule with
  | shared outside => exact absurd rfl (outside d)
  | close => cases stay
  | escape d sign other code =>
    subst sign
    obtain ⟨partner, digits, more, rfl, length_eq, hex⟩ := exists_digits_of_escape code
    have taken : ('\\' :: partner :: (digits ++ more)).take
        (1 + escapeBodyLength (partner :: (digits ++ more))) = '\\' :: partner :: digits := by
      rw [length_eq, Nat.add_comm 1]
      simp
    dsimp only
    rw [taken, unescaped_pair, endsUnpaired_pair]
    constructor
    · intro closing
      exact (plain_of_isHexDigit d (hex _ (mem_of_unescaped closing))).1 rfl
    · intro unpaired
      have last := List.mem_of_getLast? (getLast?_of_endsUnpaired unpaired)
      exact absurd rfl (plain_of_isHexDigit d (hex _ last)).2
  | escapeInvalid d sign =>
    subst sign
    cases rest with
    | nil =>
      refine ⟨?_, fun _ => rfl⟩
      intro closing
      exact absurd (mem_of_unescaped closing) (by cases d <;> decide)
    | cons partner rest => simp
  | plain d other sign =>
    have taken : (c :: rest).take (1 + plainLength d.closing rest) =
        c :: rest.take (plainLength d.closing rest) := by
      rw [Nat.add_comm 1]
      rfl
    have run : ∀ x ∈ c :: rest.take (plainLength d.closing rest), x ≠ d.closing ∧ x ≠ '\\' := by
      rw [List.forall_mem_cons]
      exact ⟨⟨other, sign⟩, fun x mem => plain_of_mem_plainRun _ mem⟩
    dsimp only
    rw [taken]
    constructor
    · intro closing
      exact (run _ (mem_of_unescaped closing)).1 rfl
    · intro unpaired
      exact absurd rfl (run _ (List.mem_of_getLast? (getLast?_of_endsUnpaired unpaired))).2

/-- The closing delimiter closes the literal, and every other rule stays in it. -/
theorem Rule.closes_or_stays {v : Vocabulary} {atStart : Bool} {c : Char} {rest : Text} {m : Match}
    {d : Delimiter} (rule : Rule v atStart c rest (.literal d) m) :
    (c = d.closing ∧ m = .one .string .leave) ∨ m.effect = .stay := by
  cases rule with
  | shared outside => exact absurd rfl (outside d)
  | close d sign => exact .inl ⟨sign, rfl⟩
  | escape | escapeInvalid | plain => exact .inr rfl

/-- A literal is found to be unclosed at its opening delimiter. -/
theorem Rule.opening_of_stringInvalid {v : Vocabulary} {atStart : Bool} {c : Char} {rest : Text}
    {mode : Mode} {m : Match} (rule : Rule v atStart c rest mode m)
    (invalid : m.kind = .stringInvalid) :
    (∀ e, mode ≠ .literal e) ∧ ∃ d : Delimiter, c = d.opening := by
  cases rule with
  | shared outside rule =>
    cases rule with
    | unclosed d sign => exact ⟨outside, d, sign⟩
    | _ => cases invalid
  | heading =>
    dsimp only at invalid
    split at invalid <;> cases invalid
  | _ => cases invalid

/-- Nothing is left over inside a literal. -/
theorem Rule.kind_ne_text_inside {v : Vocabulary} {atStart : Bool} {c : Char} {rest : Text}
    {m : Match} {d : Delimiter} (rule : Rule v atStart c rest (.literal d) m) : m.kind ≠ .text := by
  intro text
  have piece := rule.kind_inside
  simp [text, TokenKind.pieces] at piece

namespace Token

/-- The tokens close the literal `d` that is open in front of them, at the first closing delimiter
that does not stand in a pair, and the mode behind it is `around`. -/
def Closes (d : Delimiter) (around : Mode) (tokens : List Token) : Prop :=
  ∃ inside later, tokens = inside ++ ⟨[d.closing], .string, around⟩ :: later ∧
    (∀ token ∈ inside, token.mode = .literal d) ∧
    ¬ Unescaped d.closing (inside.flatMap Token.text) ∧
    ¬ EndsUnpaired (inside.flatMap Token.text)

/-- The tokens of the text `t` leave the literal `d` open that is open in front of them: each closing
delimiter stands in a pair. The mode behind them is `last`. -/
def LeftOpen (d : Delimiter) (t : Text) (tokens : List Token) (last : Mode) : Prop :=
  ¬ Unescaped d.closing t ∧ (∀ token ∈ tokens, token.mode = .literal d) ∧ last = .literal d

end Token

namespace Vocabulary

variable (v : Vocabulary) {d : Delimiter}

/-- The pieces of a text belong to a literal that goes on with it. -/
def Within (d : Delimiter) (tokens : List Token) : Prop :=
  ∀ token ∈ tokens, token.mode = .literal d ∧ token.kind ≠ .text

/-- **Reading on in a literal.** Either it is closed at the first closing delimiter outside pairs, and
what is behind is read in the state without it, or there is none and it stays open. -/
theorem scan_inside (s : LineState) (atStart : Bool) (t : Text) (inside : s.mode = .literal d) :
    (∃ pieces behind, Within d pieces ∧ t = pieces.flatMap Token.text ++ d.closing :: behind ∧
        ¬ Unescaped d.closing (pieces.flatMap Token.text) ∧
        ¬ EndsUnpaired (pieces.flatMap Token.text) ∧
        v.scan s atStart t = (pieces ++ ⟨[d.closing], .string, s.leave.mode⟩ ::
          (v.scan s.leave false behind).1, (v.scan s.leave false behind).2)) ∨
      (¬ Unescaped d.closing t ∧ Within d (v.scan s atStart t).1 ∧ (v.scan s atStart t).2 = s) := by
  induction s, atStart, t using scan.induct v with
  | case1 s atStart => exact .inr ⟨by simp, by simp [scan, Within], by rw [scan]⟩
  | case2 s atStart c rest found next ih =>
    have rule : Rule v atStart c rest s.mode found := rule_matchAt v atStart c rest s.mode
    rw [inside] at rule
    have whole : (c :: rest).take found.length ++ (c :: rest).drop found.length = c :: rest :=
      List.take_append_drop _ _
    rcases rule.closes_or_stays with ⟨rfl, closes⟩ | stay
    · refine .inl ⟨[], rest, by simp [Within], rfl, by simp, by simp, ?_⟩
      rw [scan_cons closes]
      rfl
    · have same : next = s := by
        change s.apply found.effect = s
        rw [stay]
        rfl
      have step : v.scan s atStart (c :: rest) = (found.token s (c :: rest) ::
          (v.scan next false ((c :: rest).drop found.length)).1,
          (v.scan next false ((c :: rest).drop found.length)).2) := scan_cons rfl
      have piece : (found.token s (c :: rest)).mode = .literal d ∧
          (found.token s (c :: rest)).kind ≠ .text :=
        ⟨(congrArg LineState.mode same).trans inside, rule.kind_ne_text_inside⟩
      obtain ⟨taken, unpaired⟩ := rule.units_taken stay
      rw [same] at ih step
      rw [step]
      rcases ih inside with ⟨pieces, behind, within, cut, no_closing, paired, read⟩ |
        ⟨no_closing, within, state⟩
      · left
        have paired_taken : ¬ EndsUnpaired ((c :: rest).take found.length) := by
          intro ends
          have left_over := unpaired ends
          rw [cut] at left_over
          simp at left_over
        refine ⟨found.token s (c :: rest) :: pieces, behind, ?_, ?_, ?_, ?_, ?_⟩
        · exact List.forall_mem_cons.mpr ⟨piece, within⟩
        · rw [List.flatMap_cons, List.append_assoc, ← cut]
          exact whole.symm
        · rw [List.flatMap_cons]
          exact mt (unescaped_append paired_taken _).mp (not_or.mpr ⟨taken, no_closing⟩)
        · rw [List.flatMap_cons]
          exact not_endsUnpaired_append paired_taken paired
        · rw [read, List.cons_append]
      · refine .inr ⟨?_, List.forall_mem_cons.mpr ⟨piece, within⟩, state⟩
        rw [← whole]
        by_cases ends : EndsUnpaired ((c :: rest).take found.length)
        · rwa [unpaired ends, List.append_nil]
        · exact mt (unescaped_append ends _).mp (not_or.mpr ⟨taken, no_closing⟩)

/-- What is read in a literal is joined with nothing. -/
theorem joinText_append_of_within {pieces : List Token} (within : Within d pieces)
    (others : List Token) : Token.joinText (pieces ++ others) = pieces ++ Token.joinText others := by
  induction pieces with
  | nil => rfl
  | cons piece pieces ih =>
    rw [Within, List.forall_mem_cons] at within
    rw [List.cons_append, Token.joinText_cons_of_ne_text within.1.2, ih within.2]
    rfl

/-- **The tokens of a literal** close it at its first unescaped closing delimiter, or leave it open. -/
theorem closes_or_leftOpen (s : LineState) (atStart : Bool) (t : Text)
    (inside : s.mode = .literal d) :
    Token.Closes d s.leave.mode (Token.joinText (v.scan s atStart t).1) ∨
      Token.LeftOpen d t (Token.joinText (v.scan s atStart t).1) (v.scan s atStart t).2.mode := by
  rcases v.scan_inside s atStart t inside with ⟨pieces, behind, within, -, no_closing, paired, read⟩ |
    ⟨no_closing, within, state⟩
  · refine .inl ⟨pieces, Token.joinText (v.scan s.leave false behind).1, ?_,
      fun token mem => (within token mem).1, no_closing, paired⟩
    rw [read, joinText_append_of_within within, Token.joinText_cons_of_ne_text (by simp)]
  · have joined := joinText_append_of_within within []
    simp only [List.append_nil] at joined
    rw [state, joined]
    refine .inr ⟨no_closing, fun token mem => ?_, inside⟩
    exact (within token (by simpa [Token.joinText] using mem)).1

/-! ## Opening a literal -/

/-- **At a delimiter that opens a literal**, outside literals, the rule for literals applies. -/
theorem matchAt_opening (v : Vocabulary) {mode : Mode} (outside : ∀ e, mode ≠ .literal e)
    (atStart : Bool) (d : Delimiter) (rest : Text) :
    v.matchAt mode atStart d.opening rest = openingMatch d rest :=
  matchAt_of_no_word (solid_opening d).1 (solid_opening d).2 v outside
    (sharedMatch?_opening atStart d rest)

variable {v}

/-- What a literal's opening delimiter makes of the line. -/
theorem opened {here : LineState} {atHere : Bool} {rest : Text} {token : Token} {after : List Token}
    (layered : here.Layered atHere) (outside : ∀ e, here.mode ≠ .literal e) (one_line : '\n' ∉ rest)
    (read : Token.joinText (v.scan here atHere (d.opening :: rest)).1 = token :: after) :
    (¬ Unescaped d.closing rest ∧ ¬ EndsUnpaired rest →
      token = ⟨d.opening :: rest, .stringInvalid, here.mode⟩ ∧ after = []) ∧
    (Unescaped d.closing rest ∨ EndsUnpaired rest →
      token = ⟨[d.opening], .string, .literal d⟩ ∧
        (Token.Closes d here.mode after ∨
          Token.LeftOpen d rest after (v.scan here atHere (d.opening :: rest)).2.mode ∧
            EndsUnpaired rest)) := by
  have found := v.matchAt_opening outside atHere d rest
  rw [scan_cons found] at read ⊢
  have ends := runsOut_iff d one_line
  constructor
  · intro runs
    have through : openingMatch d rest = .through rest .stringInvalid := if_pos (ends.mpr runs)
    rw [through, Token.joinText_cons_of_ne_text (by simp [Match.token, Match.through])] at read
    simp only [List.cons.injEq] at read
    obtain ⟨rfl, rfl⟩ := read
    simp [Match.token, Match.through, LineState.apply, scan, Token.joinText]
  · intro closable
    have one : openingMatch d rest = .one .string (.enter (.literal d)) := by
      refine if_neg fun runs => ?_
      obtain ⟨no_closing, paired⟩ := ends.mp runs
      exact closable.elim no_closing paired
    have left_again : (here.enter (.literal d)).leave.mode = here.mode := by
      obtain ⟨row, _ | e, rfl, -⟩ := layered
      · simp
      · exact absurd rfl (outside e)
    rw [one, Token.joinText_cons_of_ne_text (by simp [Match.token, Match.one])] at read
    simp only [List.cons.injEq] at read
    obtain ⟨rfl, rfl⟩ := read
    refine ⟨rfl, ?_⟩
    rw [one]
    have goes_on := v.closes_or_leftOpen (here.enter (.literal d)) false rest (d := d) rfl
    rw [left_again] at goes_on
    exact goes_on.imp_right fun left_open =>
      ⟨left_open, closable.resolve_left left_open.1⟩

variable (v)

/-- **Unclosed literals are flagged, and no others.** Where a token outside literals starts at an opening
delimiter, it is the rest of the line, as an invalid literal, exactly if no closing delimiter behind it
is unescaped and no backslash at the end of the line is without a partner. Otherwise it is the delimiter
alone, and the tokens behind it close the literal at its first unescaped closing delimiter, behind which
the mode is again that in front of it; or there is none, and the backslash at the end leaves it open.
Other tokens are not flagged. A literal in which the line starts is closed, or left open, in the same
way: an escaped delimiter never closes one. -/
theorem unclosed_literals_flagged {state : LineState} (reachable : state.Reachable) {line : Text}
    (one_line : '\n' ∉ line) :
    let start := state.nextLine
    let read := v.tokenizeLine line state
    (∀ before token after, read.tokens = before ++ token :: after →
      (∀ e, Token.modeAfter start.mode before ≠ .literal e) →
      ∀ (d : Delimiter) rest, line = before.flatMap Token.text ++ d.opening :: rest →
        (token = ⟨d.opening :: rest, .stringInvalid, Token.modeAfter start.mode before⟩ ∧
            after = [] ↔
          ¬ Unescaped d.closing rest ∧ ¬ EndsUnpaired rest) ∧
        (Unescaped d.closing rest ∨ EndsUnpaired rest →
          token = ⟨[d.opening], .string, .literal d⟩ ∧
            (Token.Closes d (Token.modeAfter start.mode before) after ∨
              Token.LeftOpen d rest after read.state.mode ∧ EndsUnpaired rest))) ∧
    (∀ before token after, read.tokens = before ++ token :: after → token.kind = .stringInvalid →
      (∀ e, Token.modeAfter start.mode before ≠ .literal e) ∧
        ∃ (d : Delimiter) (rest : Text), line = before.flatMap Token.text ++ d.opening :: rest) ∧
    ∀ d, start.mode = .literal d →
      Token.Closes d start.outside.mode read.tokens ∨
        Token.LeftOpen d line read.tokens read.state.mode := by
  intro start read
  have layered : start.Layered true := reachable.layered_nextLine
  refine ⟨?_, ?_, ?_⟩
  · intro before token after split outside d rest cut
    obtain ⟨here, atHere, rest', r⟩ := exists_resumes layered before split
    obtain rfl : rest' = d.opening :: rest := List.append_cancel_left (r.line_eq.symm.trans cut)
    have state_eq : (v.scan here atHere (d.opening :: rest)).2 = read.state := r.state_eq
    rw [← r.mode_eq] at outside ⊢
    rw [← state_eq]
    have one_line : '\n' ∉ rest := fun mem => one_line (by rw [cut]; simp [mem])
    obtain ⟨runs_out, closable⟩ := opened r.layered outside one_line r.tokens_eq
    refine ⟨⟨fun flagged => ?_, runs_out⟩, closable⟩
    by_contra other
    have entered := (closable (by tauto)).1
    rw [flagged.1] at entered
    cases entered
  · intro before token after split invalid
    obtain ⟨here, atHere, rest', r⟩ := exists_resumes layered before split
    cases rest' with
    | nil => exact absurd rfl r.rest_ne_nil
    | cons c rest =>
      obtain ⟨kind, -, -⟩ := r.first
      obtain ⟨outside, d, sign⟩ := (rule_matchAt v atHere c rest here.mode).opening_of_stringInvalid
        (kind.symm.trans invalid)
      rw [← r.mode_eq]
      exact ⟨outside, d, rest, sign ▸ r.line_eq⟩
  · intro d literal
    have goes_on := v.closes_or_leftOpen start true line literal
    have around : start.outside.mode = start.leave.mode := by
      simp [LineState.outside, literal, Mode.isLiteral]
    rw [around]
    exact goes_on

/-- The escaped quotation mark does not close the first literal, the one after it does, and the second
literal is flagged. -/
theorem unclosed_literals_flagged_escaped :
    LineState.initial.Reachable ∧ '\n' ∉ "'a\\'b' <c".toList ∧
      (empty.tokenizeLine "'a\\'b' <c".toList .initial).tokens =
        [] ++ ⟨"'".toList, .string, .literal .single⟩ ::
          [⟨"a".toList, .string, .literal .single⟩, ⟨"\\'".toList, .stringEscape, .literal .single⟩,
            ⟨"b".toList, .string, .literal .single⟩, ⟨"'".toList, .string, .root⟩,
            ⟨" ".toList, .white, .root⟩, ⟨"<c".toList, .stringInvalid, .root⟩] ∧
      Token.Closes .single .root
        [⟨"a".toList, .string, .literal .single⟩, ⟨"\\'".toList, .stringEscape, .literal .single⟩,
          ⟨"b".toList, .string, .literal .single⟩, ⟨"'".toList, .string, .root⟩,
          ⟨" ".toList, .white, .root⟩, ⟨"<c".toList, .stringInvalid, .root⟩] ∧
      ¬ Unescaped '>' "c".toList ∧ ¬ EndsUnpaired "c".toList := by
  have one_line : '\n' ∉ "'a\\'b' <c".toList := by decide
  have split : (empty.tokenizeLine "'a\\'b' <c".toList .initial).tokens =
      [] ++ ⟨"'".toList, .string, .literal .single⟩ ::
        [⟨"a".toList, .string, .literal .single⟩, ⟨"\\'".toList, .stringEscape, .literal .single⟩,
          ⟨"b".toList, .string, .literal .single⟩, ⟨"'".toList, .string, .root⟩,
          ⟨" ".toList, .white, .root⟩, ⟨"<c".toList, .stringInvalid, .root⟩] := by decide +kernel
  have last : (empty.tokenizeLine "'a\\'b' <c".toList .initial).tokens =
      [⟨"'".toList, .string, .literal .single⟩, ⟨"a".toList, .string, .literal .single⟩,
          ⟨"\\'".toList, .stringEscape, .literal .single⟩, ⟨"b".toList, .string, .literal .single⟩,
          ⟨"'".toList, .string, .root⟩, ⟨" ".toList, .white, .root⟩] ++
        ⟨"<c".toList, .stringInvalid, .root⟩ :: [] := split
  obtain ⟨flagged, -, -⟩ := empty.unclosed_literals_flagged .initial one_line
  have unescaped : Unescaped Delimiter.single.closing "a\\'b' <c".toList := by decide
  obtain ⟨-, goes_on⟩ := (flagged _ _ _ split (by simp [Token.modeAfter, LineState.nextLine,
    LineState.surviving, LineState.initial, LineState.mode]) .single "a\\'b' <c".toList rfl).2
      (.inl unescaped)
  have runs_out := (flagged _ _ _ last (by simp [Token.modeAfter]) .angle "c".toList rfl).1.mp
    ⟨rfl, rfl⟩
  exact ⟨.initial, one_line, split, goes_on.resolve_right fun left_open => left_open.1.1 unescaped,
    runs_out⟩

end Vocabulary

end StepScript
