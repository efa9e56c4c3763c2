import Mathlib
import StepScript.Grammar

/-!
# The rules of the tokenizer, one by one

**What this file is for.** `Vocabulary.matchAt` tries the rules of a mode in order. Statements about
whole lines should not go through that order again, so it is inverted once: `Rule` has one
constructor for each rule, with the match that the rule yields and the condition under which it
applies, and `rule_matchAt` says that the match at a character always comes from one of them.

* `SharedRule` lists the rules that the root mode and the rows have in common
  (`sharedRule_of_sharedMatch?`).
* `Rule` lists the rules of all modes.
* `Rule.length_le`: no rule takes more characters than the line has left. That every rule takes at
  least one is part of the type of a match.
* `Rule.stay_of_text`: what is left over in a row never changes the mode.

The lengths come first: each scanning function measures an initial part of its text.
-/

namespace StepScript

namespace Scan

/-! ## Lengths of initial parts -/

/-- A run of characters at the start is no longer than the text. -/
theorem length_takeWhile_le (p : Char → Bool) (t : Text) : (t.takeWhile p).length ≤ t.length :=
  (List.takeWhile_prefix p).length_le

/-- As many characters as a run at the start has are that run. -/
theorem take_length_takeWhile (p : Char → Bool) (t : Text) :
    t.take (t.takeWhile p).length = t.takeWhile p :=
  (List.prefix_iff_eq_take.mp (List.takeWhile_prefix p)).symm

/-- The blank characters at the start and what follows them make up the text. -/
theorem blanks_append_afterBlanks (t : Text) : blanks t ++ afterBlanks t = t :=
  List.takeWhile_append_dropWhile

/-- The lengths of the two parts at the first character that is not blank. -/
theorem length_blanks_add_length_afterBlanks (t : Text) :
    (blanks t).length + (afterBlanks t).length = t.length := by
  rw [← List.length_append, blanks_append_afterBlanks]

/-- The leading word with the blanks before it lies within the text. -/
theorem leadingWordLength_le (t : Text) : leadingWordLength t ≤ t.length := by
  have word : (leadingWord t).length ≤ (afterBlanks t).length := length_takeWhile_le _ _
  have parts := length_blanks_add_length_afterBlanks t
  unfold leadingWordLength
  split <;> omega

/-- Every leading word ends within the text. -/
theorem end_le_of_mem_leadingWordsFrom {w : Text × Nat} (start limit : Nat) (t : Text)
    (h : w ∈ leadingWordsFrom start limit t) : w.2 ≤ start + t.length := by
  induction limit generalizing start t with
  | zero => simp [leadingWordsFrom] at h
  | succ limit ih =>
    have bound := leadingWordLength_le t
    rw [leadingWordsFrom] at h
    split at h
    · simp at h
    · rcases List.mem_cons.mp h with rfl | later
      · simpa using bound
      · have := ih _ _ later
        rw [List.length_drop] at this
        omega

/-- A heading lies within its line. -/
theorem length_le_of_heading? {line word : Text} {length : Nat}
    (h : heading? line = some (word, length)) : length ≤ line.length := by
  have bound := leadingWordLength_le line
  unfold heading? at h
  simp only at h
  split at h
  · cases h
  · split at h
    · rename_i after colon
      have parts := length_blanks_add_length_afterBlanks (line.drop (leadingWordLength line))
      rw [colon, List.length_drop, List.length_cons] at parts
      simp only [Option.some.injEq, Prod.mk.injEq] at h
      omega
    · cases h

/-- An optional mark takes at most one character, which must be there. -/
theorem markLength_le (marks : List Char) (t : Text) : markLength marks t ≤ t.length := by
  cases t with
  | nil => simp [markLength]
  | cons c rest =>
    rw [markLength, List.length_cons]
    split <;> omega

/-- A run of digits lies within the text. -/
theorem digitsLength_le (t : Text) : digitsLength t ≤ t.length := length_takeWhile_le _ _

/-- The digits of a number lie within the text. -/
theorem mantissaLength_le (t : Text) : mantissaLength t ≤ t.length := by
  have whole := digitsLength_le t
  unfold mantissaLength
  simp only
  split
  · rename_i after point
    have fraction := digitsLength_le after
    have parts := congrArg List.length point
    rw [List.length_drop, List.length_cons] at parts
    split <;> omega
  · exact whole

/-- An exponent lies within the text. -/
theorem exponentLength_le (t : Text) : exponentLength t ≤ t.length := by
  have mark := markLength_le ['e', 'E'] t
  have sign := markLength_le ['-', '+'] (t.drop (markLength ['e', 'E'] t))
  have digits := digitsLength_le
    (t.drop (markLength ['e', 'E'] t + markLength ['-', '+'] (t.drop (markLength ['e', 'E'] t))))
  rw [List.length_drop] at sign digits
  unfold exponentLength
  simp only
  split <;> omega

/-- A number lies within the text. -/
theorem numberLength_le (t : Text) : numberLength t ≤ t.length := by
  unfold numberLength
  simp only
  set sign := markLength ['-', '+'] t with sign_def
  set mantissa := mantissaLength (t.drop sign) with mantissa_def
  set exponent := exponentLength (t.drop (sign + mantissa)) with exponent_def
  set imaginary := markLength ['j', 'J'] (t.drop (sign + mantissa + exponent)) with imaginary_def
  have h₁ : sign ≤ t.length := markLength_le _ _
  have h₂ : mantissa ≤ (t.drop sign).length := mantissaLength_le _
  have h₃ : exponent ≤ (t.drop (sign + mantissa)).length := exponentLength_le _
  have h₄ : imaginary ≤ (t.drop (sign + mantissa + exponent)).length := markLength_le _ _
  have h₅ := markLength_le ['l', 'L'] (t.drop (sign + mantissa + exponent + imaginary))
  simp only [List.length_drop] at h₂ h₃ h₄ h₅
  split <;> omega

/-- A number begins with a sign, a digit or a point. -/
theorem numberLength_eq_zero {c : Char} (sign : c ∉ ['-', '+']) (digit : isDecimalDigit c = false)
    (point : c ≠ '.') (rest : Text) : numberLength (c :: rest) = 0 := by
  have no_digits : digitsLength (c :: rest) = 0 := by simp [digitsLength, digit]
  have no_sign : markLength ['-', '+'] (c :: rest) = 0 := if_neg sign
  have no_mantissa : mantissaLength (c :: rest) = 0 := by
    simp [mantissaLength, no_digits, point]
  simp [numberLength, no_sign, no_mantissa]

/-- A run of hexadecimal digits lies within the text and within its limit. -/
theorem hexLength_le (limit : Nat) (t : Text) : hexLength limit t ≤ min limit t.length := by
  have run := length_takeWhile_le isHexDigit (t.take limit)
  rwa [List.length_take] at run

/-- What makes an escape after its backslash lies within the text. -/
theorem escapeBodyLength_le (t : Text) : escapeBodyLength t ≤ t.length := by
  cases t with
  | nil => simp [escapeBodyLength]
  | cons c rest =>
    have four := hexLength_le 4 rest
    have eight := hexLength_le 8 rest
    rw [escapeBodyLength, List.length_cons]
    split_ifs <;> omega

/-- A run of plain characters lies within the text. -/
theorem plainLength_le (close : Char) (t : Text) : plainLength close t ≤ t.length :=
  length_takeWhile_le _ _

/-! ## The shared rules -/

/-- What the rules shared by the root mode and the rows take at the character `c`, one constructor
for each rule. The first four are whole lines or begin one. -/
inductive SharedRule (atStart : Bool) (c : Char) (rest : Text) : Match → Prop
  | strong (start : atStart = true) : SharedRule atStart c rest (.through rest .strong)
  | bar {after : Text} (start : atStart = true) (found : afterBlanks (c :: rest) = '|' :: after) :
      SharedRule atStart c rest
        ⟨(blanks (c :: rest)).length + 1, .operator, .enter (.row .params), Nat.succ_pos _⟩
  | comment (start : atStart = true) : SharedRule atStart c rest (.through rest .comment)
  | tag (sign : c = '@') : SharedRule atStart c rest (.through rest .tag)
  | white (positive : 0 < ((c :: rest).takeWhile isSpace).length) :
      SharedRule atStart c rest ⟨((c :: rest).takeWhile isSpace).length, .white, .stay, positive⟩
  | number (positive : 0 < numberLength (c :: rest)) :
      SharedRule atStart c rest ⟨numberLength (c :: rest), .number, .stay, positive⟩
  | unclosed (d : Delimiter) (sign : c = d.opening) (ends : runsOut d.closing rest = true) :
      SharedRule atStart c rest (.through rest .stringInvalid)
  | opening (d : Delimiter) (sign : c = d.opening) (ends : runsOut d.closing rest = false) :
      SharedRule atStart c rest (.one .string (.enter (.literal d)))

end Scan

namespace Match

/-- A match of a given length exists exactly if the length is positive. -/
theorem ofLength?_eq_some {length : Nat} {kind : TokenKind} {effect : Effect} {m : Match} :
    ofLength? length kind effect = some m ↔ ∃ h : 0 < length, m = ⟨length, kind, effect, h⟩ := by
  unfold ofLength?
  split
  · rename_i h
    simp [h, eq_comm]
  · rename_i h
    simp [h]

end Match

namespace Scan

/-- White space is blank. -/
theorem isSpace_of_not_isBlank {c : Char} (solid : isBlank c = false) : isSpace c = false := by
  have apart : ∀ d, isBlank d = true → c ≠ d := by
    rintro d blank rfl
    exact Bool.noConfusion (solid.symm.trans blank)
  simp [isSpace, apart ' ' (by decide), apart '\t' (by decide), apart '\r' (by decide),
    apart '\n' (by decide)]

/-- Where nothing begins that is a whole line, or begins one, and no white space, there may be a number
or a literal. -/
theorem sharedMatch?_of_plain {c : Char} (solid : isBlank c = false)
    (other : c ∉ ['@', '*', '|', '#', '/']) (atStart : Bool) (rest : Text) :
    sharedMatch? atStart c rest = (Match.ofLength? (numberLength (c :: rest)) .number).or
      ((Delimiter.ofOpening? c).map (openingMatch · rest)) := by
  simp only [List.mem_cons, List.not_mem_nil, or_false, not_or] at other
  have line : lineMatch? c rest = none := by
    have first : afterBlanks (c :: rest) = c :: rest := by simp [afterBlanks, solid]
    unfold lineMatch?
    rw [first]
    simp [other]
  have white : (c :: rest).takeWhile isSpace = [] := by simp [isSpace_of_not_isBlank solid]
  simp [sharedMatch?, other.1, line, white, Match.ofLength?]

/-- The rules for the start of a line. -/
theorem sharedRule_of_lineMatch? {c : Char} {rest : Text} {m : Match}
    (h : lineMatch? c rest = some m) : SharedRule true c rest m := by
  unfold lineMatch? at h
  split at h
  · cases h
    exact .strong rfl
  · rename_i after found
    obtain ⟨positive, rfl⟩ := Match.ofLength?_eq_some.mp h
    exact .bar rfl found
  · split at h
    · cases h
      exact .comment rfl
    · cases h

/-- A match of the shared rules comes from one of them. -/
theorem sharedRule_of_sharedMatch? {atStart : Bool} {c : Char} {rest : Text} {m : Match}
    (h : sharedMatch? atStart c rest = some m) : SharedRule atStart c rest m := by
  unfold sharedMatch? at h
  split at h
  · rename_i sign
    cases h
    exact .tag sign
  · rcases Option.or_eq_some_iff.mp h with line | ⟨-, h⟩
    · split at line
      · rename_i start
        subst start
        exact sharedRule_of_lineMatch? line
      · cases line
    · rcases Option.or_eq_some_iff.mp h with white | ⟨-, h⟩
      · obtain ⟨positive, rfl⟩ := Match.ofLength?_eq_some.mp white
        exact .white positive
      · rcases Option.or_eq_some_iff.mp h with number | ⟨-, literal⟩
        · obtain ⟨positive, rfl⟩ := Match.ofLength?_eq_some.mp number
          exact .number positive
        · obtain ⟨d, found, rfl⟩ := Option.map_eq_some_iff.mp literal
          have sign := Delimiter.opening_of_ofOpening? found
          unfold openingMatch
          cases ends : runsOut d.closing rest with
          | true => exact .unclosed d sign ends
          | false => exact .opening d sign ends

end Scan

/-! ## The rules of each mode -/

open Scan

/-- What is taken at the character `c` in each mode, one constructor for each rule. -/
inductive Rule (v : Vocabulary) (atStart : Bool) (c : Char) (rest : Text) : Mode → Match → Prop
  | heading {word : Text} {length : Nat} (start : atStart = true)
      (found : heading? (c :: rest) = some (word, length)) (positive : 0 < length) :
      Rule v atStart c rest .root
        ⟨length, if v.isSingleKeyword word then .heading else .identifier, .stay, positive⟩
  | keyword {length count : Nat} (start : atStart = true)
      (found : v.leadingKeyword? (c :: rest) = some (length, count)) (positive : 0 < length) :
      Rule v atStart c rest .root ⟨length, .keyword, .enter (.row .operator), positive⟩
  | word (start : atStart = true) (positive : 0 < leadingWordLength (c :: rest)) :
      Rule v atStart c rest .root ⟨leadingWordLength (c :: rest), .emphasis, .stay, positive⟩
  | emphasis : Rule v atStart c rest .root (.through rest .emphasis)
  | identifier (positive : 0 < leadingWordLength (c :: rest)) :
      Rule v atStart c rest (.row .operator)
        ⟨leadingWordLength (c :: rest), .identifier, .stay, positive⟩
  | shared {mode : Mode} {m : Match} (outside : ∀ d, mode ≠ .literal d)
      (rule : SharedRule atStart c rest m) : Rule v atStart c rest mode m
  | text (row : Row) : Rule v atStart c rest (.row row) (.one .text)
  | close (d : Delimiter) (sign : c = d.closing) :
      Rule v atStart c rest (.literal d) (.one .string .leave)
  | escape (d : Delimiter) (sign : c = '\\') (other : c ≠ d.closing)
      (code : 0 < escapeBodyLength rest) :
      Rule v atStart c rest (.literal d)
        ⟨1 + escapeBodyLength rest, .stringEscape, .stay, Nat.lt_add_right _ Nat.one_pos⟩
  | escapeInvalid (d : Delimiter) (sign : c = '\\') (other : c ≠ d.closing) :
      Rule v atStart c rest (.literal d)
        ⟨1 + (rest.take 1).length, .stringEscapeInvalid, .stay, Nat.lt_add_right _ Nat.one_pos⟩
  | plain (d : Delimiter) (other : c ≠ d.closing) (sign : c ≠ '\\') :
      Rule v atStart c rest (.literal d)
        ⟨1 + plainLength d.closing rest, .string, .stay, Nat.lt_add_right _ Nat.one_pos⟩

section Inversion

variable (v : Vocabulary) (atStart : Bool) (c : Char) (rest : Text)

/-- A match at the start of a line in root mode comes from one of its three rules. -/
theorem rule_of_startMatch? {m : Match} (start : atStart = true)
    (h : v.startMatch? (c :: rest) = some m) : Rule v atStart c rest .root m := by
  unfold Vocabulary.startMatch? at h
  split at h
  · rename_i word length found
    obtain ⟨positive, rfl⟩ := Match.ofLength?_eq_some.mp h
    exact .heading start found positive
  · split at h
    · rename_i length count found
      obtain ⟨positive, rfl⟩ := Match.ofLength?_eq_some.mp h
      exact .keyword start found positive
    · obtain ⟨positive, rfl⟩ := Match.ofLength?_eq_some.mp h
      exact .word start positive

/-- The match in root mode comes from one of its rules. -/
theorem rule_rootMatch : Rule v atStart c rest .root (v.rootMatch atStart c rest) := by
  unfold Vocabulary.rootMatch
  rcases found : ((if atStart then v.startMatch? (c :: rest) else none).or
    (sharedMatch? atStart c rest)) with _ | m
  · exact .emphasis
  · rcases Option.or_eq_some_iff.mp found with first | ⟨-, shared⟩
    · split at first
      · rename_i start
        exact rule_of_startMatch? v atStart c rest start first
      · cases first
    · exact .shared (by simp) (sharedRule_of_sharedMatch? shared)

/-- The match in a row of parameters comes from one of the rules that every row has. -/
theorem rule_paramsMatch (row : Row) : Rule v atStart c rest (.row row)
    (paramsMatch atStart c rest) := by
  unfold paramsMatch
  rcases found : sharedMatch? atStart c rest with _ | m
  · exact .text row
  · exact .shared (by simp) (sharedRule_of_sharedMatch? found)

/-- The match after a keyword is a word, or one that every row has. -/
theorem rule_operatorMatch : Rule v atStart c rest (.row .operator)
    (operatorMatch atStart c rest) := by
  unfold operatorMatch
  rcases found : Match.ofLength? (leadingWordLength (c :: rest)) .identifier with _ | m
  · exact rule_paramsMatch v atStart c rest .operator
  · obtain ⟨positive, rfl⟩ := Match.ofLength?_eq_some.mp found
    exact .identifier positive

/-- The match inside a literal comes from one of its four rules. -/
theorem rule_literalMatch (d : Delimiter) : Rule v atStart c rest (.literal d)
    (literalMatch d c rest) := by
  unfold literalMatch
  split_ifs with close slash code
  · exact .close d close
  · exact .escapeInvalid d slash close
  · exact .escape d slash close (Nat.pos_of_ne_zero code)
  · exact .plain d close slash

/-- **Inversion**: the match at a character comes from one of the rules of the mode. -/
theorem rule_matchAt (mode : Mode) :
    Rule v atStart c rest mode (v.matchAt mode atStart c rest) := by
  match mode with
  | .root => exact rule_rootMatch v atStart c rest
  | .row .operator => exact rule_operatorMatch v atStart c rest
  | .row .params => exact rule_paramsMatch v atStart c rest .params
  | .literal d => exact rule_literalMatch v atStart c rest d

end Inversion

/-! ## What all rules have in common -/

/-- A keyword phrase lies within its line. -/
theorem Vocabulary.length_le_of_leadingKeyword? {v : Vocabulary} {line : Text} {length count : Nat}
    (h : v.leadingKeyword? line = some (length, count)) : length ≤ line.length := by
  unfold leadingKeyword? at h
  simp only at h
  split at h
  · cases h
  · obtain ⟨w, found, pair⟩ := Option.map_eq_some_iff.mp h
    have bound := end_le_of_mem_leadingWordsFrom 0 _ line (List.mem_of_getElem? found)
    simp only [Prod.mk.injEq] at pair
    omega

namespace Scan.SharedRule

variable {atStart : Bool} {c : Char} {rest : Text} {m : Match}

/-- No shared rule takes more than the line has. -/
theorem length_le (rule : SharedRule atStart c rest m) : m.length ≤ rest.length + 1 := by
  cases rule with
  | bar start found =>
    have parts := length_blanks_add_length_afterBlanks (c :: rest)
    rw [found, List.length_cons, List.length_cons] at parts
    simp only
    omega
  | white => exact length_takeWhile_le isSpace (c :: rest)
  | number => exact numberLength_le (c :: rest)
  | opening d => exact Nat.succ_le_succ (Nat.zero_le _)
  | strong | comment | tag | unclosed => exact Nat.le_refl _

/-- The shared rules leave nothing over. -/
theorem kind_ne_text (rule : SharedRule atStart c rest m) : m.kind ≠ .text := by
  cases rule <;> simp [Match.through, Match.one]

/-- A shared rule that changes the mode enters a row, at the start of a line, or a literal. -/
theorem effect_cases (rule : SharedRule atStart c rest m) :
    m.effect = .stay ∨ (atStart = true ∧ m.effect = .enter (.row .params)) ∨
      ∃ d, m.effect = .enter (.literal d) := by
  cases rule with
  | bar start => exact .inr (.inl ⟨start, rfl⟩)
  | opening d => exact .inr (.inr ⟨d, rfl⟩)
  | strong | comment | tag | white | number | unclosed => exact .inl rfl

end Scan.SharedRule

namespace Rule

variable {v : Vocabulary} {atStart : Bool} {c : Char} {rest : Text} {mode : Mode} {m : Match}

/-- No rule takes more than the line has. -/
theorem length_le (rule : Rule v atStart c rest mode m) : m.length ≤ rest.length + 1 := by
  cases rule with
  | heading start found => exact length_le_of_heading? found
  | keyword start found => exact Vocabulary.length_le_of_leadingKeyword? found
  | word => exact leadingWordLength_le (c :: rest)
  | identifier => exact leadingWordLength_le (c :: rest)
  | emphasis => exact Nat.le_refl _
  | shared outside rule => exact rule.length_le
  | text => exact Nat.succ_le_succ (Nat.zero_le _)
  | close => exact Nat.succ_le_succ (Nat.zero_le _)
  | escape =>
    have := escapeBodyLength_le rest
    simp only
    omega
  | escapeInvalid =>
    have := List.length_take_le' 1 rest
    simp only
    omega
  | plain d =>
    have := plainLength_le d.closing rest
    simp only
    omega

/-- What is left over in a row does not change the mode. -/
theorem stay_of_text (rule : Rule v atStart c rest mode m) (text : m.kind = .text) :
    m.effect = .stay := by
  cases rule with
  | keyword => cases text
  | shared outside rule => exact absurd text rule.kind_ne_text
  | close => cases text
  | heading | word | emphasis | identifier | text | escape | escapeInvalid | plain => rfl

/-- Inside a literal a rule stays or leaves. -/
theorem effect_inside {d : Delimiter} (rule : Rule v atStart c rest (.literal d) m) :
    m.effect = .stay ∨ m.effect = .leave := by
  cases rule with
  | shared outside => exact absurd rfl (outside d)
  | close => exact .inr rfl
  | escape | escapeInvalid | plain => exact .inl rfl

end Rule

end StepScript
