/-!
# Command lines

The program takes one of two commands:

* `query <database_dir> <input_file> <output_file> [--config <path>]`
* `explain <database_dir> <input_file> [--config <path>]`

Reading the words of a command line stops at the first word it cannot take. Help and
version requests (`-h`, `--help`, `-V`, `--version` before a command, `-h` and `--help` after
it), unknown flags and surplus values stop it at once. A value of a command, and the value
of `--config`, is held back and checked only when the next value or known flag comes, or at
the end: an empty value, a `--config` without one, or a second `--config`, is reported then,
and not at all when an unknown or misused flag stops the reading first. Missing values are
found only at the end. With no words at all the program asks for help. The word `help` is
a command of its own that asks for help, optionally about one command.
-/

namespace CsvQuery

/-- A command to run. -/
inductive Command where
  | query (databaseDir inputFile outputFile : String) (config : Option String)
  | explain (databaseDir inputFile : String) (config : Option String)
deriving DecidableEq, Repr, Inhabited

/-- Why a command line was not run, by kind. -/
inductive ArgsError where
  /-- A required value is missing. -/
  | missingRequiredArgument
  /-- The first word names no command. -/
  | invalidSubcommand
  /-- A word or flag is not expected where it stands. -/
  | unknownArgument
  /-- Help was asked for. -/
  | displayHelp
  /-- The version was asked for. -/
  | displayVersion
  /-- Nothing was given, so help is shown. -/
  | displayHelpOnMissingArgumentOrSubcommand
  /-- A value is empty or missing after its option. -/
  | invalidValue
  /-- An option was given twice. -/
  | argumentConflict
  /-- A flag that takes no value was given one. -/
  | tooManyValues
deriving DecidableEq, Repr, Inhabited

/-- The name of each kind. -/
def ArgsError.name : ArgsError → String
  | .missingRequiredArgument => "MissingRequiredArgument"
  | .invalidSubcommand => "InvalidSubcommand"
  | .unknownArgument => "UnknownArgument"
  | .displayHelp => "DisplayHelp"
  | .displayVersion => "DisplayVersion"
  | .displayHelpOnMissingArgumentOrSubcommand => "DisplayHelpOnMissingArgumentOrSubcommand"
  | .invalidValue => "InvalidValue"
  | .argumentConflict => "ArgumentConflict"
  | .tooManyValues => "TooManyValues"

namespace Args

/-- The command names. -/
def commandNames : List String := ["query", "explain", "help"]

/-- The outcome of a cluster of one-letter flags: the first letter decides, through the
letters it accepts. Help and version act as soon as their letter is read, so what follows
it, an attached `=value` included, is never looked at. -/
def shortFlags (accepts : Char → Option ArgsError) : List Char → ArgsError
  | [] => .unknownArgument
  | c :: _ =>
    match accepts c with
    | some e => e
    | none => .unknownArgument

/-- A flag word that is not an option with a value: `--name[=value]` or a cluster `-abc`.
Returns the outcome it forces, given the long and short flags that ask for help or the
version. -/
def flagOutcome (longs : List (String × ArgsError)) (accepts : Char → Option ArgsError)
    (word : String) : ArgsError :=
  match word.toList with
  | '-' :: '-' :: rest =>
    let name := String.ofList (rest.takeWhile (· ≠ '='))
    match longs.lookup name with
    | some e => if rest.contains '=' then .tooManyValues else e
    | none => .unknownArgument
  | '-' :: rest => shortFlags accepts rest
  | _ => .unknownArgument

/-- Whether a word is read as a flag: it starts with `-` and is not `-` alone. -/
def isFlag (word : String) : Bool := word.startsWith "-" && word ≠ "-"

/-- A value held back until the word after it settles it: a value of the command, or the
value given to `--config` so far. -/
inductive Held where
  | value (word : String)
  | config (word : Option String)
deriving DecidableEq, Repr, Inhabited

/-- The state of reading a command's words: its checked values (latest first), its settings
file, the value held back, how many values were taken, and whether `--` was seen. -/
structure Reading where
  values : List String := []
  config : Option String := none
  held : Option Held := none
  taken : Nat := 0
  trailing : Bool := false
deriving DecidableEq, Repr, Inhabited

/-- Whether `--config` waits for its value. -/
def Reading.awaiting (r : Reading) : Bool := r.held == some (.config none)

/-- Sets the settings file: a second one conflicts with the first, and a missing or empty
one is a bad value. -/
def Reading.setConfig (r : Reading) : Option String → Except ArgsError Reading
  | none => .error .invalidValue
  | some w =>
    if r.config.isSome then .error .argumentConflict
    else if w = "" then .error .invalidValue
    else .ok { r with config := some w }

/-- Checks the value held back, if any. -/
def Reading.settle (r : Reading) : Except ArgsError Reading :=
  let free := { r with held := none }
  match r.held with
  | none => .ok r
  | some (.value w) => if w = "" then .error .invalidValue else .ok { free with values := w :: r.values }
  | some (.config w) => free.setConfig w

/-- Takes one more value word of a command with `arity` values, settling the one before. -/
def Reading.value (r : Reading) (arity : Nat) (word : String) : Except ArgsError Reading :=
  if r.taken ≥ arity then .error .unknownArgument
  else do
    let r ← r.settle
    pure { r with held := some (.value word), taken := r.taken + 1 }

/-- Reads a flag word of a command: `--config[=value]`, `--help`, or a cluster of letters
of which only `h` is known. Known flags settle the value held back first. -/
def Reading.flag (r : Reading) (word : String) : Except ArgsError Reading :=
  match word.toList with
  | '-' :: '-' :: rest =>
    let name := String.ofList (rest.takeWhile (· ≠ '='))
    let attached := if rest.contains '=' then some (String.ofList ((rest.dropWhile (· ≠ '=')).drop 1)) else none
    if name = "config" then do
      let r ← r.settle
      match attached with
      | some v => r.setConfig (some v)
      | none => pure { r with held := some (.config none) }
    else if name = "help" then
      if attached.isSome then .error .tooManyValues
      else do
        let _ ← r.settle
        .error .displayHelp
    else .error .unknownArgument
  | '-' :: 'h' :: _ => do
    let _ ← r.settle
    .error .displayHelp
  | _ => .error .unknownArgument

/-- Reads the words of a command with `arity` values. -/
def readCommand (arity : Nat) : Reading → List String → Except ArgsError Reading
  | r, [] => r.settle
  | r, w :: ws =>
    if r.trailing then do readCommand arity (← r.value arity w) ws
    else if w = "--" then readCommand arity { r with trailing := true } ws
    else if isFlag w then do readCommand arity (← r.flag w) ws
    else if r.awaiting then readCommand arity { r with held := some (.config (some w)) } ws
    else do readCommand arity (← r.value arity w) ws

/-- The flags accepted before a command. -/
def topLongs : List (String × ArgsError) := [("help", .displayHelp), ("version", .displayVersion)]

/-- The letters accepted before a command. -/
def topShorts (c : Char) : Option ArgsError :=
  if c = 'h' then some .displayHelp else if c = 'V' then some .displayVersion else none

/-- Builds a command from its words once all were read. -/
def finish (arity : Nat) (r : Reading) (build : List String → Option String → Command) :
    Except ArgsError Command :=
  if r.values.length < arity then .error .missingRequiredArgument
  else .ok (build r.values.reverse r.config)

end Args

open Args in
/-- Reads a command line, without the program name. -/
def Command.ofArgs : List String → Except ArgsError Command
  | [] | ["--"] => .error .displayHelpOnMissingArgumentOrSubcommand
  | "--" :: w :: _ => .error (if commandNames.contains w then .unknownArgument else .invalidSubcommand)
  | "help" :: rest =>
    match rest with
    | [] => .error .displayHelp
    | [w] => .error (if commandNames.contains w then .displayHelp else .invalidSubcommand)
    -- no command has commands of its own, so a second word names none
    | _ :: _ :: _ => .error .invalidSubcommand
  | "query" :: rest => do
    let r ← readCommand 3 {} rest
    finish 3 r fun vs c => .query (vs.getD 0 "") (vs.getD 1 "") (vs.getD 2 "") c
  | "explain" :: rest => do
    let r ← readCommand 2 {} rest
    finish 2 r fun vs c => .explain (vs.getD 0 "") (vs.getD 1 "") c
  | w :: _ => .error (if isFlag w then flagOutcome topLongs topShorts w else .invalidSubcommand)

end CsvQuery
