import Covenant.CommandLine.Closeness
import Covenant.Text.Quoted

/-!
Reading a command line: options and arguments of the commands, what is wrong with them, and the
texts that explain their use.
-/

namespace Covenant.CommandLine

open Covenant.Text

/-- The commands: the whole program and its two subcommands. -/
inductive Command where
  | program
  | info
  | demo
  deriving Repr, DecidableEq

/-- The long options that a command takes. None of them takes a value. -/
def Command.options : Command → List String
  | .program => ["--version", "--help"]
  | .info => ["--json", "--help"]
  | .demo => ["--help"]

/-- The words that call a command. -/
def Command.words : Command → String
  | .program => "dbcore"
  | .info => "dbcore info"
  | .demo => "dbcore demo"

/-- The line that sums the use of a command up. -/
def Command.usage : Command → String
  | .program => "Usage: dbcore [OPTIONS] COMMAND [ARGS]...\n"
  | .info => "Usage: dbcore info [OPTIONS]\n"
  | .demo => "Usage: dbcore demo [OPTIONS] [queue|bank|all]\n"

/-- The explanation of a command. -/
def Command.help (c : Command) : String :=
  c.usage ++
    match c with
    | .program =>
      "\n  dbcore - Design-by-Contract checks for Python.\n\nOptions:\n" ++
      "  --version  Show the version and exit.\n  --help     Show this message and exit.\n\n" ++
      "Commands:\n  demo  Run a demo scenario (queue, bank, or all).\n" ++
      "  info  Show the active checking profile.\n"
    | .info =>
      "\n  Show the active checking profile.\n\n" ++
      "  The profile is fixed when dbcore is imported; set DBCORE_PROFILE (auto,\n" ++
      "  checked, unchecked) or run Python with -O to change it.\n\nOptions:\n" ++
      "  --json  Output as JSON\n  --help  Show this message and exit.\n"
    | .demo =>
      "\n  Run a demo scenario (queue, bank, or all).\n\nOptions:\n" ++
      "  --help  Show this message and exit.\n"

/-- The names of the subcommands. -/
def subcommands : List String := ["demo", "info"]

/-- What can be wrong with a command line. What is not known comes with the known words close to
it. -/
inductive Misuse where
  | unknownOption (name : String) (close : List String)
  | valueGiven (name : String)
  | missingCommand
  | unknownCommand (name : String) (close : List String)
  | unknownChoice (value : String)
  | extraArguments (args : List String)
  deriving Repr, DecidableEq

/-- The names of the demos that can be chosen. -/
def choices : List String := ["queue", "bank", "all"]

/-- Quoted words with commas between them. -/
def quotedWords (words : List String) : String :=
  ", ".intercalate (words.map quoted)

/-- The known words close to a given one, in ascending order. -/
def closeWords (known : List String) (name : String) : List String :=
  (known.filter fun k => isClose k name).mergeSort fun a b => decide (a ≤ b)

/-- What is suggested in place of an unknown word; `several` suggests more than one. -/
def suggestion (several : String → String) : List String → String
  | [] => ""
  | [c] => " Did you mean " ++ quoted c ++ "?"
  | cs => " (" ++ several (quotedWords cs) ++ ")"

/-- The text about a misuse. -/
def Misuse.message : Misuse → String
  | .unknownOption name close =>
    "No such option " ++ quoted name ++ "." ++ suggestion ("Possible options: " ++ ·) close
  | .valueGiven name => "Option " ++ quoted name ++ " does not take a value."
  | .missingCommand => "Missing command."
  | .unknownCommand name close =>
    "No such command " ++ quoted name ++ "." ++
      suggestion (fun words => "Did you mean one of: " ++ words ++ "?") close
  | .unknownChoice value =>
    "Invalid value for '[queue|bank|all]': " ++ quoted value ++ " is not one of " ++
      quotedWords choices ++ "."
  | .extraArguments args =>
    (if args.length = 1 then "Got unexpected extra argument (" else
      "Got unexpected extra arguments (") ++ " ".intercalate args ++ ")"

/-- What is written about the misuse of a command. -/
def Command.complaint (c : Command) (e : Misuse) : String :=
  c.usage ++ "Try '" ++ c.words ++ " --help' for help.\n\nError: " ++ e.message ++ "\n"

/-- A command line taken apart: the options in order, and the arguments. -/
structure Parts where
  options : List String
  arguments : List String
  deriving Repr, DecidableEq

/-- Whether a word is read as an option: a dash with something after it. -/
def isOption (word : String) : Bool :=
  word.startsWith "-" && 1 < word.length

/-- The name of an option and whether a value is attached to it. -/
def optionName (word : String) : String × Bool :=
  let name := word.toList.takeWhile (· != '=')
  (String.ofList name, name.length < word.length)

/-- The option that a word stands for. With a single dash in front, what is unknown is the first
letter. -/
def readOption (known : List String) (word : String) : Except Misuse String :=
  let (name, valued) := optionName word
  if known.contains name then
    if valued then .error (.valueGiven name) else .ok name
  else if word.startsWith "--" then
    .error (.unknownOption name (closeWords known name))
  else .error (.unknownOption (String.ofList (word.toList.take 2)) [])

/-- Takes the words of a command line apart. Two dashes end the options. Unless options may stand
between arguments, so does the first argument. -/
def takeApart (known : List String) (mixed : Bool) : List String → Except Misuse Parts
  | [] => .ok ⟨[], []⟩
  | word :: rest =>
    if word == "--" then .ok ⟨[], rest⟩
    else if isOption word then do
      let option ← readOption known word
      let parts ← takeApart known mixed rest
      return ⟨option :: parts.options, parts.arguments⟩
    else if mixed then do
      let parts ← takeApart known mixed rest
      return ⟨parts.options, word :: parts.arguments⟩
    else .ok ⟨[], word :: rest⟩

/-- What is to be done. -/
inductive Task where
  | showHelp (c : Command)
  | showVersion
  | showInfo (json : Bool)
  | runDemos (names : List String)
  deriving Repr, DecidableEq

/-- The task that the first of the options asks for that are done before everything else. -/
def eagerTask? (c : Command) (options : List String) : Option Task :=
  options.findSome? fun o =>
    if o == "--help" then some (.showHelp c)
    else if o == "--version" then some .showVersion
    else none

/-- The demos that an argument chooses. -/
def chosen (name : String) : List String :=
  if name == "all" then ["queue", "bank"] else [name]

/-- The task of the command that shows the profile. -/
def readInfo (words : List String) : Except Misuse Task := do
  let parts ← takeApart Command.info.options true words
  match eagerTask? .info parts.options, parts.arguments with
  | some task, _ => return task
  | none, [] => return .showInfo (parts.options.contains "--json")
  | none, args => throw (.extraArguments args)

/-- The task of the command that runs demos. -/
def readDemo (words : List String) : Except Misuse Task := do
  let parts ← takeApart Command.demo.options true words
  match eagerTask? .demo parts.options, parts.arguments with
  | some task, _ => return task
  | none, [] => return .runDemos (chosen "all")
  | none, name :: rest =>
    if choices.contains name then
      if rest.isEmpty then return .runDemos (chosen name) else throw (.extraArguments rest)
    else throw (.unknownChoice name)

/-- The task of a command line whose first word is no command. If it looks like an option, the words
are read once more as options of the whole program. -/
def readUnknown (name : String) (words : List String) : Except Misuse Task := do
  let refusal := Misuse.unknownCommand name (closeWords subcommands name)
  if name.startsWith "-" then
    let parts ← takeApart Command.program.options false words
    match eagerTask? .program parts.options with
    | some task => return task
    | none => throw refusal
  else throw refusal

/-- What is wrong with a command line, and with the use of which command. -/
abbrev Refusal := Command × Misuse

/-- Says which command a misuse belongs to. -/
def blame {α : Type} (c : Command) : Except Misuse α → Except Refusal α
  | .ok a => .ok a
  | .error e => .error (c, e)

/-- The task of the words that follow the options of the whole program. -/
def readCommand (words : List String) : Except Refusal Task :=
  match words with
  | [] => .error (.program, .missingCommand)
  | "info" :: rest => blame .info (readInfo rest)
  | "demo" :: rest => blame .demo (readDemo rest)
  | name :: _ => blame .program (readUnknown name words)

/-- The task of a command line that is not empty. -/
def readTask (words : List String) : Except Refusal Task := do
  let parts ← blame .program (takeApart Command.program.options false words)
  match eagerTask? .program parts.options with
  | some task => return task
  | none => readCommand parts.arguments

end Covenant.CommandLine
