import SerialSuite.Diagnostic
import SerialSuite.Text.Blank

/-!
Which diagnostics are shown, and in what form.

A filter is a list of directives between commas: a level, or a target and its level. All diagnostics
are the program's own, so that the last directive decides, whatever its target.
-/

namespace SerialSuite

inductive LogFormat where
  /-- For people. -/
  | pretty
  /-- One object a line, for collection. -/
  | json
  deriving DecidableEq, Repr

def LogFormat.label : LogFormat → String
  | pretty => "Pretty"
  | json => "Json"

inductive LogError where
  | unknownFormat (text : String)
  | badLevel
  deriving DecidableEq, Repr

def LogError.message : LogError → String
  | unknownFormat text => s!"Unknown log format: {text}"
  | badLevel =>
    "Invalid log filter: error parsing level filter: expected one of \"off\", \"error\", " ++
      "\"warn\", \"info\", \"debug\", \"trace\", or a number 0-5"

/-- The format a text names, in any ASCII case and with white space around it. -/
def LogFormat.ofText (text : String) : Except LogError LogFormat :=
  let name := String.ofList ((Text.trim text.toList).map Char.toLower)
  if name = "pretty" ∨ name = "text" then .ok pretty
  else if name = "json" then .ok json
  else .error (.unknownFormat name)

/-- How severe a level is; `0` is for no diagnostics at all. -/
def Level.rank : Level → Nat
  | error => 1
  | warn => 2
  | info => 3
  | debug => 4
  | trace => 5

/-- The ranks that are shown: those up to the number. -/
structure LogFilter where
  rank : Nat
  deriving DecidableEq, Repr

namespace LogFilter

def levelNames : List String := ["off", "error", "warn", "info", "debug", "trace"]

/-- The rank of a level name, in any ASCII case, or of a number. -/
def rankOf? (text : List Char) : Option Nat :=
  let name := String.ofList (text.map Char.toLower)
  (levelNames.findIdx? (· = name)).or (["0", "1", "2", "3", "4", "5"].findIdx? (· = name))

/-- The rank that one directive gives. A target without a level shows everything. -/
def directive (text : List Char) : Except LogError Nat :=
  match text.dropWhile (· ≠ '=') with
  | [] | [_] => .ok ((rankOf? text).getD Level.trace.rank)
  | _ :: level => (rankOf? level).elim (.error .badLevel) .ok

def splitCommas : List Char → List (List Char)
  | [] => [[]]
  | c :: rest =>
    match splitCommas rest with
    | first :: others => if c = ',' then [] :: first :: others else (c :: first) :: others
    | [] => [[c]]

/-- The filter that a text spells. -/
def ofText (text : String) : Except LogError LogFilter := do
  let ranks ← (splitCommas text.toList).mapM directive
  return ⟨ranks.getLast?.getD Level.error.rank⟩

def shows (f : LogFilter) (d : Diagnostic) : Bool := d.level.rank ≤ f.rank

end LogFilter

/-- A character of a text between quotes, as one-line objects have it. -/
def escapeField (c : Char) : List Char :=
  if c = '"' ∨ c = '\\' then ['\\', c]
  else if c.toNat < 0x20 then
    ['\\', 'u', '0', '0', hexDigit (c.toNat / 16), hexDigit (c.toNat % 16)]
  else [c]

def quoteField (s : String) : String := "\"" ++ String.ofList (s.toList.flatMap escapeField) ++ "\""

/-- A diagnostic as one line. -/
def Diagnostic.line (d : Diagnostic) : LogFormat → String
  | .pretty =>
    d.level.label ++ " " ++ d.message ++
      String.join (d.fields.map fun (k, v) => " " ++ k ++ "=" ++ v)
  | .json =>
    let entry (k v : String) : String := quoteField k ++ ":" ++ quoteField v
    let entries := entry "level" d.level.label :: entry "message" d.message ::
      d.fields.map fun (k, v) => entry k v
    "\x7b" ++ String.intercalate "," entries ++ "\x7d"

end SerialSuite
