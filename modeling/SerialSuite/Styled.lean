import SerialSuite.Text.Control

/-!
Messages in pieces of different looks, and the variables that ask for or against looks.
-/

namespace SerialSuite

/-- The values of environment variables, by name. -/
abbrev Variables := String → Option Bytes

inductive Style where
  | plain
  | heading
  /-- What is to be typed as it stands. -/
  | literal
  | failure
  /-- What was typed and is wrong. -/
  | invalid
  deriving DecidableEq, Repr

def Style.code : Style → String
  | plain => ""
  | heading => "\x1b[1m\x1b[4m"
  | literal => "\x1b[1m"
  | failure => "\x1b[1m\x1b[31m"
  | invalid => "\x1b[33m"

/-- A message: its pieces, each in one style. -/
abbrev Styled := List (Style × String)

namespace Styled

/-- A message with its control sequences. -/
def coded (message : Styled) : Bytes :=
  message.flatMap fun (style, text) =>
    if style = .plain then utf8 text else utf8 (style.code ++ text ++ "\x1b[0m")

/-- A message as it is written; without styles no control sequence is left, not even in what was
typed. -/
def render (message : Styled) (styles : Bool) : Bytes :=
  if styles then message.coded else Text.visible message.coded

/-- Whether a variable has a value that is not empty. -/
def isSet (values : Variables) (name : String) : Bool := ((values name).getD []) ≠ []

/-- The variables that decide about styles. -/
def deciding : List String := ["NO_COLOR", "CLICOLOR_FORCE", "CLICOLOR", "CI", "TERM"]

/-- Whether messages are shown with styles, on a terminal or elsewhere. -/
def wanted (values : Variables) (terminal : Bool) : Bool :=
  if isSet values "NO_COLOR" then false
  else if isSet values "CLICOLOR_FORCE" then true
  else if values "CLICOLOR" = some (utf8 "0") then false
  else terminal && ((values "CLICOLOR").isSome || (values "CI").isSome ||
    ((values "TERM").isSome && values "TERM" ≠ some (utf8 "dumb")))

end Styled

end SerialSuite
