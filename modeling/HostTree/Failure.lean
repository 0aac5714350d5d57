/-
This file holds the causes for which no configuration is produced.
-/

import HostTree.Text.Quoted

namespace HostTree

/-- The offset of a brace counts bytes. -/
inductive TemplateFlaw where
  | unbalanced (brace : Char) (offset : Nat)
  | unknownPlaceholder (name : String)
  deriving DecidableEq, Repr

inductive LoopFlaw where
  | wrongKind (kind : String)
  | fieldNotInteger (field kind : String)
  | unknownField (field : String)
  | missingStop
  | unsupportedExpression (expression : String)
  | boundOutOfRange (bound : String)
  | zeroStep
  | tooManyItems (limit : Nat)
  deriving DecidableEq, Repr

inductive DirectiveFlaw where
  | notBoolean (text : String)
  | notBooleanKind (kind : String)
  | notPattern (kind : String)
  | notList (kind : String)
  | notEntry (kind : String)
  | notRoot (kind : String)
  | secondChildren (first : String)
  | secondPattern
  deriving DecidableEq, Repr

/-- These causes come up once the home directory is known. -/
inductive Failure where
  | sourceNotFound (candidates : List String)
  | unreadableSource (path : String)
  | invalidYaml (path : String)
  | invalidToml (path : String)
  | unknownOption (name : String)
  | malformedTemplate (template : String) (flaw : TemplateFlaw)
  | invalidDirective (directive : String) (flaw : DirectiveFlaw)
  | invalidLoop (flaw : LoopFlaw)
  | unwritableOutput (path : String)
  deriving DecidableEq, Repr

/-- A command asks for the home directory before it does anything else. -/
inductive Obstacle where
  | homeNotFound
  | failure (cause : Failure)
  deriving DecidableEq, Repr

def TemplateFlaw.message : TemplateFlaw → String
  | unbalanced brace offset =>
    "unbalanced `" ++ String.singleton brace ++ "` at byte " ++ toString offset
  | unknownPlaceholder name => "unknown placeholder `\x7b" ++ name ++ "\x7d`"

def LoopFlaw.message : LoopFlaw → String
  | wrongKind kind =>
    "expected a list, a range mapping or a `range(...)` string, got " ++ kind
  | fieldNotInteger field kind => "`" ++ field ++ "` must be an integer, got " ++ kind
  | unknownField field => "unknown range field `" ++ field ++ "`"
  | missingStop => "range mapping requires `stop`"
  | unsupportedExpression expression =>
    "unsupported loop expression " ++ Text.quoted expression
  | boundOutOfRange bound => "range bound " ++ bound ++ " is out of range"
  | zeroStep => "range step must not be zero"
  | tooManyItems limit => "range produces more than " ++ toString limit ++ " items"

def DirectiveFlaw.message : DirectiveFlaw → String
  | notBoolean text => "expected a boolean, got " ++ Text.quoted text
  | notBooleanKind kind => "expected a boolean, got " ++ kind
  | notPattern kind => "expected a pattern, got " ++ kind
  | notList kind => "expected a list, got " ++ kind
  | notEntry kind => "entries must be mappings or names, got " ++ kind
  | notRoot kind => "expected a mapping or a list, got " ++ kind
  | secondChildren first => "cannot be combined with `" ++ first ++ "`"
  | secondPattern => "a node declares exactly one `Host` or `Match` pattern"

def Failure.message : Failure → String
  | sourceNotFound candidates =>
    "No source document found, tried: " ++ ", ".intercalate candidates
  | unreadableSource path => "Failed to read source document: " ++ path
  | invalidYaml path => "Failed to parse YAML source document: " ++ path
  | invalidToml path => "Failed to parse TOML source document: " ++ path
  | unknownOption name => name ++ " is not a valid option"
  | malformedTemplate template flaw =>
    "Malformed template " ++ Text.quoted template ++ ": " ++ flaw.message
  | invalidDirective directive flaw =>
    "Invalid `" ++ directive ++ "` directive: " ++ flaw.message
  | invalidLoop flaw => "Invalid loop in `with_items`: " ++ flaw.message
  | unwritableOutput path => "Failed to write output file: " ++ path

def Obstacle.message : Obstacle → String
  | homeNotFound => "Failed to resolve home directory"
  | failure cause => cause.message

end HostTree
