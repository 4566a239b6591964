import SerialSuite.Styled

/-!
The command line. Arguments are read from left to right; the first that is wrong or asks for help
decides.
-/

namespace SerialSuite

/-- What the program is asked to do. -/
inductive Command where
  | run (nightly stopOnError : Bool)
  | help
  | version
  deriving DecidableEq, Repr

inductive UsageError where
  | unexpectedArgument (shown : String)
  | unexpectedValue (option value : String)
  | repeated (option : String)
  deriving DecidableEq, Repr

namespace Command

/-- The line of usage. -/
def usageMessage : Styled :=
  [(.heading, "Usage:"), (.plain, " "), (.literal, "tfw-harness"), (.plain, " [OPTIONS]\n")]

def helpMessage : Styled :=
  [(.plain, "Drive the kernel test suite over the debug serial link\n\n")] ++ usageMessage ++
  [(.plain, "\n"), (.heading, "Options:"),
   (.plain, "\n      "), (.literal, "--nightly"),
   (.plain, "        Run nightly-only tests as well\n      "), (.literal, "--stop-on-error"),
   (.plain, "  Abort the suite on the first failure that was not skipped\n  "),
   (.literal, "-h"), (.plain, ", "), (.literal, "--help"), (.plain, "           Print help\n  "),
   (.literal, "-V"), (.plain, ", "), (.literal, "--version"), (.plain, "        Print version\n"),
   (.plain, "\nEndpoints, timing and logging are configured through TFW_* environment variables."),
   (.plain, "\n")]

def versionMessage : Styled := [(.plain, "tfw-harness 0.8.1\n")]

end Command

namespace UsageError

/-- What is wrong, without the word that opens the message. -/
def reason : UsageError → Styled
  | unexpectedArgument shown =>
    [(.plain, "unexpected argument '"), (.invalid, shown), (.plain, "' found")]
  | unexpectedValue option value =>
    [(.plain, "unexpected value '"), (.invalid, value), (.plain, "' for '"), (.literal, option),
     (.plain, "' found; no more were expected")]
  | repeated option =>
    [(.plain, "the argument '"), (.invalid, option), (.plain, "' cannot be used multiple times")]

def message (e : UsageError) : Styled :=
  [(.failure, "error:"), (.plain, " ")] ++ e.reason ++ [(.plain, "\n\n")] ++ Command.usageMessage ++
  [(.plain, "\nFor more information, try '"), (.literal, "--help"), (.plain, "'.\n")]

end UsageError

namespace Command

/-- An argument: an option by its long name, maybe with a value, a one-letter option, or neither. -/
inductive Argument where
  | long (name : String) (value : Option String)
  | short (letter : Char)
  | plain (text : String)
  deriving DecidableEq, Repr

/-- The first letter decides about a group of them. -/
def Argument.ofText (text : String) : Argument :=
  match text.toList with
  | '-' :: '-' :: rest =>
    let name := rest.takeWhile (· ≠ '=')
    let value := (rest.dropWhile (· ≠ '=')).tail?
    .long ("--" ++ String.ofList name) (value.map String.ofList)
  | '-' :: letter :: _ => .short letter
  | _ => .plain text

/-- Reads the arguments that are left, after the flags seen so far. -/
def parseFrom (nightly stopOnError : Bool) : List String → Except UsageError Command
  | [] => .ok (.run nightly stopOnError)
  | "--" :: rest =>
    match rest with
    | [] => .ok (.run nightly stopOnError)
    | text :: _ => .error (.unexpectedArgument text)
  | text :: rest =>
    match Argument.ofText text with
    | .plain text => .error (.unexpectedArgument text)
    | .short 'h' => .ok .help
    | .short 'V' => .ok .version
    | .short letter => .error (.unexpectedArgument (String.ofList ['-', letter]))
    | .long name value =>
      if name ∉ ["--nightly", "--stop-on-error", "--help", "--version"] then
        .error (.unexpectedArgument name)
      else match value with
        | some value => .error (.unexpectedValue name value)
        | none =>
          if name = "--help" then .ok .help
          else if name = "--version" then .ok .version
          else if name = "--nightly" then
            if nightly then .error (.repeated name) else parseFrom true stopOnError rest
          else if stopOnError then .error (.repeated name)
          else parseFrom nightly true rest

def parse (args : List String) : Except UsageError Command := parseFrom false false args

end Command

end SerialSuite
