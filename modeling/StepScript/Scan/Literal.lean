import StepScript.Delimiter

/-!
# Literals: their end, their escapes

**Two readers that must agree.** When a literal opens, `runsOut` looks ahead and says whether the
line ends before the literal is closed; if so, the rest of the line is one invalid token. If not,
the literal is entered and read piece by piece: its closing delimiter, an escape (`escapeLength`),
or plain characters up to the next delimiter or backslash (`plainLength`). A backslash at the very
end of a line leaves the literal open for the next line, so `runsOut` denies that case.
-/

namespace StepScript.Scan

/-- Whether a literal with the closing delimiter `close` reaches the end of the line unclosed: no
closing delimiter stands outside a pair that a backslash starts, and every backslash has a partner
other than a line feed. -/
def runsOut (close : Char) : Text → Bool
  | [] => true
  | ['\\'] => false
  | '\\' :: c :: rest => c ≠ '\n' && runsOut close rest
  | c :: rest => c ≠ close && runsOut close rest

/-- Whether `c` is a hexadecimal digit. -/
def isHexDigit (c : Char) : Bool :=
  c.isDigit || ('a' ≤ c && c ≤ 'f') || ('A' ≤ c && c ≤ 'F')

/-- The length of the run of hexadecimal digits at the start, at most `limit`. -/
def hexLength (limit : Nat) (t : Text) : Nat := ((t.take limit).takeWhile isHexDigit).length

/-- The length of an escape whose backslash precedes the text: a letter or mark that stands for
one character, or a code in one to four, exactly four, or exactly eight hexadecimal digits. Zero
when the text makes no escape. -/
def escapeBodyLength : Text → Nat
  | [] => 0
  | c :: rest =>
    if c ∈ ['a', 'b', 'f', 'n', 'r', 't', 'v', '\\', '"', '\'', '>'] then 1
    else if c = 'x' then (if hexLength 4 rest = 0 then 0 else 1 + hexLength 4 rest)
    else if c = 'u' then (if hexLength 4 rest = 4 then 5 else 0)
    else if c = 'U' then (if hexLength 8 rest = 8 then 9 else 0)
    else 0

/-- The length of the run of characters that neither close the literal nor start an escape. -/
def plainLength (close : Char) (t : Text) : Nat :=
  (t.takeWhile fun c => c ≠ close && c ≠ '\\').length

end StepScript.Scan
