import SerialSuite.Tally
import SerialSuite.TestName
import SerialSuite.Text.Columns

/-!
What the console shows of a run: a banner for each test, completed by its verdict, and a block with
the summary at the end. Names are padded to one column, so that the verdicts line up.
-/

namespace SerialSuite

/-- Something worth a line or more on the console. -/
inductive Notice where
  | started (name : TestName)
  | verdict (v : Verdict)
  | completed (tally : Tally)
  | aborted (tally : Tally)
  deriving DecidableEq, Repr

inductive Tone where
  | neutral | red | green | yellow
  deriving DecidableEq, Repr

namespace Tone

def reset : String := "\x1b[0m"

/-- The escape sequence that opens a tone. -/
def code : Tone → String
  | neutral => ""
  | red => "\x1b[31m"
  | green => "\x1b[32m"
  | yellow => "\x1b[33m"

end Tone

/-- A text in one tone; without its end it is completed by the line that follows. -/
structure Line where
  text : String
  tone : Tone := .neutral
  ends : Bool := true
  deriving DecidableEq, Repr

namespace Line

/-- The writes that make up a line; nothing is written for an empty text. -/
def pieces (l : Line) (colour : Bool) : List Bytes :=
  let text := if colour && l.tone != .neutral then [l.tone.code, l.text, Tone.reset] else [l.text]
  ((text ++ if l.ends then ["\n"] else []).filter (· ≠ "")).map utf8

end Line

namespace Notice

def ellipsis : String := "..."

/-- Columns of the longest name and its ellipsis. -/
def nameColumn : Nat := TestName.maxLength + ellipsis.length

/-- Blanks up to the verdicts' column, for a text that is as wide as `width` says. -/
def banner (width : List Char → Nat) (name : TestName) : String :=
  let blanks := nameColumn - width name.chars - ellipsis.length
  "Starting test '" ++ name.text ++ "'" ++ ellipsis ++
    String.ofList (List.replicate blanks ' ') ++ " "

def verdictLine : Verdict → Line
  | .passed elapsed => { text := s!"passed ({elapsed.brief})", tone := .green }
  | .failed elapsed => { text := s!"failed ({elapsed.brief})", tone := .red }
  | .skipped => { text := "skipped (nightly only)", tone := .yellow }

def summaryLine (t : Tally) : Line :=
  { text := t.summary, tone := if 0 < t.failed then .red else .green }

def lines : Notice → List Line
  | started name => [{ text := banner Text.columns name, ends := false }]
  | verdict v => [verdictLine v]
  | completed t => [{ text := "" }, { text := "All test cases are completed!" }, summaryLine t]
  | aborted t =>
    [{ text := "" }, { text := "Stopping after first failure (--stop-on-error)", tone := .red },
      summaryLine t]

end Notice

end SerialSuite
