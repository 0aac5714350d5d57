/-
This file reads the arguments of the command line.
-/

import HostTree.Command

namespace HostTree

/-- Misuse is what the program refuses without looking at any file. -/
inductive Invocation where
  | run (request : Request)
  | version
  | help
  | misuse
  deriving DecidableEq, Repr

def Invocation.versionText : String :=
  "edgar 0.1.0"

def Invocation.helpText : String :=
  "\n".intercalate
    ["Usage: edgar [OPTIONS] [store|show|check]", "", "Options:",
      "  -c, --config <FILE>  Source document to compile",
      "  -o, --output <FILE>  File to write, or - to print",
      "  -v, --verbose        Say more",
      "  -h, --help           Print help",
      "  -V, --version        Print version"]

namespace Arguments

/-- The options may stand before the command and after it. -/
structure Options where
  source : Option String := none
  output : Option String := none

inductive Target where
  | source
  | output

/-- An option with a path comes once, and the path is not empty. -/
def Options.assign (options : Options) (target : Target) (path : String) : Option Options :=
  if path.isEmpty then none
  else match target with
    | .source => if options.source.isSome then none else some { options with source := some path }
    | .output => if options.output.isSome then none else some { options with output := some path }

/-- What follows the command takes the place of what stands before it. -/
def Options.request (before after : Options) (command : Command) : Request :=
  ⟨command, after.source <|> before.source, after.output <|> before.output⟩

inductive Flag where
  | path (target : Target)
  | verbose
  | version
  | help

def longFlag? (name : String) : Option Flag :=
  if name = "config" then some (.path .source)
  else if name = "output" then some (.path .output)
  else if name = "verbose" then some .verbose
  else if name = "version" then some .version
  else if name = "help" then some .help
  else none

def shortFlag? : Char → Option Flag
  | 'c' => some (.path .source)
  | 'o' => some (.path .output)
  | 'v' => some .verbose
  | 'V' => some .version
  | 'h' => some .help
  | _ => none

/-- An argument changes the options, needs the next one as a path, or ends the reading. -/
inductive Step where
  | changes (options : Options)
  | needs (target : Target)
  | ends (invocation : Invocation)

def Step.ofOptions : Option Options → Step
  | some options => .changes options
  | none => .ends .misuse

/-- The version is shown only before a command. -/
def versionStep (beforeCommand : Bool) : Step :=
  .ends (if beforeCommand then .version else .misuse)

/-- An equals sign may stand between a letter and its path. -/
def shortStep (beforeCommand : Bool) (options : Options) : List Char → Step
  | [] => .changes options
  | letter :: rest =>
    match shortFlag? letter with
    | none => .ends .misuse
    | some .verbose => shortStep beforeCommand options rest
    | some .version => versionStep beforeCommand
    | some .help => .ends .help
    | some (.path target) =>
      match rest with
      | [] => .needs target
      | '=' :: path => .ofOptions (options.assign target (String.ofList path))
      | path => .ofOptions (options.assign target (String.ofList path))

def longStep (beforeCommand : Bool) (options : Options) (text : List Char) : Step :=
  let name := String.ofList (text.takeWhile (· ≠ '='))
  match longFlag? name, text.dropWhile (· ≠ '=') with
  | some (.path target), '=' :: path => .ofOptions (options.assign target (String.ofList path))
  | some (.path target), _ => .needs target
  | some .verbose, [] => .changes options
  | some .version, [] => versionStep beforeCommand
  | some .help, [] => .ends .help
  | _, _ => .ends .misuse

def command? (word : String) : Option Command :=
  if word = "store" then some .store
  else if word = "show" then some .display
  else if word = "check" then some .check
  else none

/-- Help is given for the program or for one of the commands. -/
def helpInvocation : List String → Invocation
  | [] => .help
  | [word] => if (command? word).isSome ∨ word = "help" then .help else .misuse
  | _ => .misuse

/-- A path does not look like another option. -/
def looksLikeOption (argument : String) : Bool :=
  argument.startsWith "-" && argument != "-"

/-- The target is what the next argument is the path for. -/
def readOptions (before : Option (Options × Command)) :
    Option Target → Options → List String → Invocation
  | some _, _, [] => .misuse
  | some target, options, path :: rest =>
    if looksLikeOption path then .misuse
    else match options.assign target path with
      | some assigned => readOptions before none assigned rest
      | none => .misuse
  | none, options, [] =>
    match before with
    | none => .run (Options.request {} options .store)
    | some (earlier, command) => .run (earlier.request options command)
  | none, options, argument :: rest =>
    match argument.toList with
    | ['-', '-'] =>
      if ¬ rest.isEmpty then .misuse
      else readOptions before none options rest
    | '-' :: '-' :: text =>
      match longStep before.isNone options text with
      | .changes changed => readOptions before none changed rest
      | .needs target => readOptions before (some target) options rest
      | .ends invocation => invocation
    | '-' :: letter :: text =>
      match shortStep before.isNone options (letter :: text) with
      | .changes changed => readOptions before none changed rest
      | .needs target => readOptions before (some target) options rest
      | .ends invocation => invocation
    | _ =>
      if before.isSome then .misuse
      else if argument = "help" then helpInvocation rest
      else match command? argument with
        | some command => readOptions (some (options, command)) none {} rest
        | none => .misuse

/-- Without a command the configuration is stored. -/
def read (arguments : List String) : Invocation :=
  readOptions none none {} arguments

end Arguments
end HostTree
