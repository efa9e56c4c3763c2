import Mathlib
import StepScript.Proofs.Grammar.Layers
import StepScript.Proofs.Text.Lines

/-!
# Lines do not leak into each other

**Two readers of literals.** When a literal opens, `Scan.runsOut` looks ahead to the end of the
line; when it is entered, its pieces are read one by one. A line would turn the rest of the script
into one literal if the first reader let a literal be entered that the second does not find the end
of. They agree because each rule inside a literal takes whole steps of the first reader: a plain run
holds nothing that it looks at, and an escape is a backslash and its partner, followed by
hexadecimal digits only (`Rule.runsOut_drop`).

**What follows.** Inside a literal the look-ahead stays negative, and it is positive for the empty
rest, so a literal is closed on its line (`Vocabulary.closed_tokenizeLine`). The one exception is a
backslash at the very end of the line, which has no partner. A line without one therefore hands on a
state from which the next line starts afresh, and the tokens of a line are those it has alone
(`Vocabulary.tokenize_lines_apart`).
-/

namespace StepScript

namespace Text

/-- A rest of a line that can be read without looking at the next line: no line feed stands in it,
and it does not end with a backslash. -/
def EndsHere (t : Text) : Prop := '\n' ∉ t ∧ t.getLast? ≠ some '\\'

/-- What is left of a line after some characters ends as the line does. -/
theorem EndsHere.drop {t : Text} (h : t.EndsHere) (n : Nat) : EndsHere (t.drop n) := by
  refine ⟨fun feed => h.1 (List.mem_of_mem_drop feed), ?_⟩
  rw [List.getLast?_drop]
  split
  · simp
  · exact h.2

/-- A backslash at the start of such a rest has a partner other than a line feed. -/
theorem EndsHere.exists_partner {t : Text} (h : EndsHere ('\\' :: t)) :
    ∃ partner more, t = partner :: more ∧ partner ≠ '\n' := by
  cases t with
  | nil => exact absurd rfl h.2
  | cons partner more =>
    refine ⟨partner, more, rfl, ?_⟩
    rintro rfl
    exact h.1 (by simp)

end Text

namespace Scan

/-! ## The look-ahead, step by step -/

variable (close : Char)

/-- A backslash and its partner are one step of the look-ahead. -/
theorem runsOut_pair {partner : Char} (h : partner ≠ '\n') (rest : Text) :
    runsOut close ('\\' :: partner :: rest) = runsOut close rest := by
  rw [runsOut]
  simp [h]

/-- Any other character is a step of its own. -/
theorem runsOut_cons {c : Char} (h : c ≠ '\\') (rest : Text) :
    runsOut close (c :: rest) = (decide (c ≠ close) && runsOut close rest) := by
  rw [runsOut]
  · simp [h]
  · simp [h]

/-- Characters that neither close the literal nor start a pair do not matter. -/
theorem runsOut_append {run : Text} (plain : ∀ c ∈ run, c ≠ close ∧ c ≠ '\\') (rest : Text) :
    runsOut close (run ++ rest) = runsOut close rest := by
  induction run with
  | nil => rfl
  | cons c run ih =>
    rw [List.forall_mem_cons] at plain
    rw [List.cons_append, runsOut_cons close plain.1.2, ih plain.2]
    simp [plain.1.1]

/-- The same for the first `n` characters of a text. -/
theorem runsOut_drop_of_plain {t : Text} {n : Nat} (plain : ∀ c ∈ t.take n, c ≠ close ∧ c ≠ '\\') :
    runsOut close (t.drop n) = runsOut close t := by
  rw [← runsOut_append close plain (t.drop n), List.take_append_drop]

/-- A plain run holds nothing that the look-ahead looks at. -/
theorem plain_of_mem_plainRun {t : Text} {c : Char} (h : c ∈ t.take (plainLength close t)) :
    c ≠ close ∧ c ≠ '\\' := by
  rw [plainLength, take_length_takeWhile] at h
  simpa using List.mem_takeWhile_imp h

/-- A hexadecimal digit neither closes a literal nor starts a pair. -/
theorem plain_of_isHexDigit (d : Delimiter) {c : Char} (h : isHexDigit c = true) :
    c ≠ d.closing ∧ c ≠ '\\' := by
  constructor
  · rintro rfl
    cases d <;> exact absurd h (by decide)
  · rintro rfl
    exact absurd h (by decide)

/-- The characters of a run of hexadecimal digits. -/
theorem isHexDigit_of_mem_hexRun {limit : Nat} {t : Text} {c : Char}
    (h : c ∈ t.take (hexLength limit t)) : isHexDigit c = true := by
  have run : t.take (hexLength limit t) = (t.take limit).takeWhile isHexDigit := by
    have shorter : hexLength limit t ≤ limit := (hexLength_le limit t).trans (min_le_left _ _)
    rw [← take_length_takeWhile isHexDigit (t.take limit), List.take_take, ← hexLength,
      min_eq_left shorter]
  rw [run] at h
  exact List.mem_takeWhile_imp h

/-- Behind its first character an escape has hexadecimal digits only. -/
theorem isHexDigit_of_mem_escape {partner c : Char} {rest : Text}
    (h : c ∈ rest.take (escapeBodyLength (partner :: rest) - 1)) : isHexDigit c = true := by
  rw [escapeBodyLength] at h
  split_ifs at h with mark x none u four U eight
  · simp at h
  · simp at h
  · rw [Nat.add_sub_cancel_left] at h
    exact isHexDigit_of_mem_hexRun h
  · rw [show 5 - 1 = hexLength 4 rest from four.symm] at h
    exact isHexDigit_of_mem_hexRun h
  · simp at h
  · rw [show 9 - 1 = hexLength 8 rest from eight.symm] at h
    exact isHexDigit_of_mem_hexRun h
  · simp at h
  · simp at h

/-- **An escape** is a backslash, its partner and hexadecimal digits. -/
theorem exists_digits_of_escape {rest : Text} (code : 0 < escapeBodyLength rest) :
    ∃ partner digits more, rest = partner :: (digits ++ more) ∧
      escapeBodyLength rest = digits.length + 1 ∧ ∀ c ∈ digits, isHexDigit c = true := by
  cases rest with
  | nil => simp [escapeBodyLength] at code
  | cons partner tail =>
    have within := escapeBodyLength_le (partner :: tail)
    obtain ⟨n, length_eq⟩ := Nat.exists_eq_add_of_lt code
    rw [List.length_cons] at within
    have taken : (tail.take n).length = n := List.length_take_of_le (by omega)
    refine ⟨partner, tail.take n, tail.drop n, ?_, ?_, ?_⟩
    · rw [List.take_append_drop]
    · rw [taken, length_eq, Nat.zero_add]
    · intro c mem
      have shift : escapeBodyLength (partner :: tail) - 1 = n := by omega
      rw [← shift] at mem
      exact isHexDigit_of_mem_escape mem

end Scan

open Scan

/-! ## The two readers agree -/

/-- **Inside a literal each rule takes whole steps of the look-ahead.** A rule that does not close
the literal leaves a rest in which it runs out exactly if it did before. -/
theorem Rule.runsOut_drop {v : Vocabulary} {atStart : Bool} {c : Char} {rest : Text} {m : Match}
    {d : Delimiter} (rule : Rule v atStart c rest (.literal d) m)
    (here : Text.EndsHere (c :: rest)) (stay : m.effect = .stay) :
    runsOut d.closing ((c :: rest).drop m.length) = runsOut d.closing (c :: rest) := by
  cases rule with
  | shared outside => exact absurd rfl (outside d)
  | close => cases stay
  | escape d sign other code =>
    subst sign
    obtain ⟨partner, digits, more, rfl, length_eq, hex⟩ := exists_digits_of_escape code
    have not_feed : partner ≠ '\n' := by
      rintro rfl
      exact here.1 (by simp)
    have left : ('\\' :: partner :: (digits ++ more)).drop
        (1 + escapeBodyLength (partner :: (digits ++ more))) = more := by
      rw [length_eq, Nat.add_comm 1]
      simp
    dsimp only
    rw [left, runsOut_pair _ not_feed,
      runsOut_append _ fun c mem => plain_of_isHexDigit d (hex c mem)]
  | escapeInvalid d sign =>
    subst sign
    obtain ⟨partner, more, rfl, not_feed⟩ := here.exists_partner
    rw [runsOut_pair _ not_feed]
    rfl
  | plain d other sign =>
    have run := runsOut_drop_of_plain d.closing (t := rest) fun c hc => plain_of_mem_plainRun _ hc
    rw [runsOut_cons _ sign, ← run]
    simp [other, Nat.add_comm 1]

/-- A rule that enters a literal takes its delimiter, and the literal does not run out. -/
theorem Rule.runsOut_of_enter {v : Vocabulary} {atStart : Bool} {c : Char} {rest : Text}
    {mode : Mode} {m : Match} {d : Delimiter} (rule : Rule v atStart c rest mode m)
    (enter : m.effect = .enter (.literal d)) :
    runsOut d.closing ((c :: rest).drop m.length) = false := by
  cases rule with
  | shared outside rule =>
    cases rule with
    | opening d' sign ends =>
      cases enter
      exact ends
    | strong | bar | comment | tag | white | number | unclosed => cases enter
  | heading | keyword | word | emphasis | identifier | text | close | escape | escapeInvalid
  | plain => cases enter

namespace LineState

/-- Whether an open literal will be closed on the rest of its line, as far as the look-ahead
goes. -/
def WillClose (s : LineState) (rest : Text) : Prop :=
  ∀ d, s.mode = .literal d → runsOut d.closing rest = false

/-- **A rule keeps an open literal closable.** -/
theorem willClose_apply {s : LineState} {v : Vocabulary} {atStart : Bool} {c : Char} {rest : Text}
    {m : Match} (layered : s.Layered atStart) (rule : Rule v atStart c rest s.mode m)
    (will : s.WillClose (c :: rest)) (here : Text.EndsHere (c :: rest)) :
    (s.apply m.effect).WillClose ((c :: rest).drop m.length) := by
  intro d literal
  obtain ⟨row, _ | d', rfl, start⟩ := layered
  · have start : atStart = true → row = none := fun h => (start h).resolve_right (by simp)
    rcases effect_outside rule start with stay | ⟨rfl, r, enter⟩ | ⟨d', enter⟩
    · rw [stay] at literal
      exact absurd literal (mode_layers_none_ne_literal row d)
    · rw [enter] at literal
      cases literal
    · rw [enter] at literal
      cases literal
      exact rule.runsOut_of_enter enter
  · rcases rule.effect_inside with stay | leave
    · rw [stay] at literal
      cases literal
      rw [rule.runsOut_drop here stay]
      exact will d rfl
    · rw [leave] at literal
      change (layers row (some d')).leave.mode = _ at literal
      rw [leave_layers_literal] at literal
      exact absurd literal (mode_layers_none_ne_literal row d)

end LineState

/-! ## Lines and documents -/

namespace Vocabulary

variable (v : Vocabulary)

/-- The line after one that ends here starts in the initial state, if that line did. -/
theorem closed_tokenizeLine {state : LineState} {line : Text} (start : state.nextLine = .initial)
    (here : line.EndsHere) : (v.tokenizeLine line state).state.nextLine = .initial := by
  have begins : state.nextLine.Layered true ∧ line.EndsHere ∧ state.nextLine.WillClose line := by
    rw [start]
    exact ⟨LineState.layered_initial, here, fun d literal => by simp at literal⟩
  -- Along the line: at most three layers, a rest that ends here, and a literal that will close.
  obtain ⟨atEnd, layered, -, will⟩ := v.scan_preserves
    (P := fun s atStart rest => s.Layered atStart ∧ rest.EndsHere ∧ s.WillClose rest)
    (fun s atStart c rest m rule kept =>
      ⟨LineState.layered_apply kept.1 rule, kept.2.1.drop _,
        LineState.willClose_apply kept.1 rule kept.2.2 kept.2.1⟩) begins
  obtain ⟨row, _ | d, state_eq, -⟩ := layered
  · change (v.scan state.nextLine true line).2.nextLine = .initial
    rw [state_eq, LineState.nextLine_layers_none]
  · have ends := will d (by rw [state_eq]; rfl)
    simp [runsOut] at ends

/-- After lines that end where they end, the next line starts in the initial state. -/
theorem nextLine_stateAfter {state : LineState} {lines : List Text}
    (start : state.nextLine = .initial) (here : ∀ line ∈ lines, Text.EndsHere line) :
    (v.stateAfter state lines).nextLine = .initial := by
  induction lines generalizing state with
  | nil => exact start
  | cons line lines ih =>
    rw [List.forall_mem_cons] at here
    exact ih (v.closed_tokenizeLine start here.1) here.2

/-- **Lines do not leak into each other.** After each line of a document the stack is the root mode,
at most one row and at most one literal; and the tokens of a line are those that it has alone, if no
line before it ends with a backslash. -/
theorem tokenize_lines_apart (document : Text) :
    (∀ read ∈ v.tokenize document, read.state.stack.length ≤ 3 ∧
      ∃ (row : Option Row) (inside : Option Delimiter), read.state.stack =
        .root :: ((row.map Mode.row).toList ++ (inside.map Mode.literal).toList)) ∧
    ∀ i line, document.lines[i]? = some line →
      (∀ earlier ∈ document.lines.take i, earlier.getLast? ≠ some '\\') →
      (v.tokenize document)[i]?.map LineTokens.tokens =
        some (v.tokenizeLine line .initial).tokens := by
  refine ⟨fun read mem => ?_, fun i line found clean => ?_⟩
  · obtain ⟨i, found⟩ := List.mem_iff_getElem?.mp mem
    rw [tokenize, getElem?_tokenizeLines] at found
    obtain ⟨line, -, rfl⟩ := Option.map_eq_some_iff.mp found
    rw [← stateAfter_append_singleton]
    obtain ⟨row, inside, state_eq⟩ := v.stateAfter_layers (document.lines.take i ++ [line])
    rw [state_eq, LineState.stack_layers]
    refine ⟨?_, row, inside, rfl⟩
    cases row <;> cases inside <;> simp
  · have here : ∀ earlier ∈ document.lines.take i, Text.EndsHere earlier := fun earlier mem =>
      ⟨Text.lineFeed_not_mem_of_mem_lines (List.mem_of_mem_take mem), clean earlier mem⟩
    have fresh : (v.stateAfter .initial (document.lines.take i)).nextLine = .initial :=
      v.nextLine_stateAfter rfl here
    rw [tokenize, getElem?_tokenizeLines, found, Option.map_some, Option.map_some, tokenizeLine,
      fresh]
    rfl

/-- An escaped delimiter does not close the literal of the first line, the one after it does, and a
quotation mark opens a new literal on the second. -/
theorem tokenize_lines_apart_quoted :
    (∀ earlier ∈ (Text.lines "\"a\\\"b\" c\n\"d".toList).take 1, earlier.getLast? ≠ some '\\') ∧
      (empty.tokenize "\"a\\\"b\" c\n\"d".toList)[1]?.map LineTokens.tokens =
        some (empty.tokenizeLine "\"d".toList .initial).tokens :=
  ⟨by decide +kernel,
    (tokenize_lines_apart empty "\"a\\\"b\" c\n\"d".toList).2 1 "\"d".toList (by decide +kernel)
      (by decide +kernel)⟩

/-- A backslash at the end of a line does keep its literal open over the line end. -/
example : (empty.tokenize "\"a\\\nb".toList).map (fun read => read.state.mode) =
    [.literal .double, .literal .double] := by decide +kernel

end Vocabulary

end StepScript
