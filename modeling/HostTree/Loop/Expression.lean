/-
This file reads the text form of a range.
-/

import HostTree.Loop.Range
import HostTree.Text.Blank
import HostTree.Text.Digit

namespace HostTree.Range

/-- A bound is a run of digits of any script, with an optional minus sign. -/
def bound? (text : List Char) : Option (List Char × List Char) :=
  let (sign, unsigned) := match text with
    | '-' :: rest => (['-'], rest)
    | _ => ([], text)
  let digits := unsigned.takeWhile Text.isDigit
  if digits.isEmpty then none
  else some (sign ++ digits, unsigned.dropWhile Text.isDigit)

/-- Commas stand between the bounds and a closing parenthesis after the last one, with blanks around
each bound and at the end. -/
def bounds? : Nat → List Char → Option (List (List Char))
  | 0, _ => none
  | limit + 1, text => do
    let (bound, afterBound) ← bound? (Text.dropBlanks text)
    match Text.dropBlanks afterBound with
    | ',' :: rest => return bound :: (← bounds? limit rest)
    | ')' :: rest => if (Text.dropBlanks rest).isEmpty then some [bound] else none
    | _ => none

/-- An expression has up to three bounds. It is matched and never evaluated. -/
def expressionBounds? (expression : List Char) : Option (List (List Char)) :=
  match Text.dropBlanks expression with
  | 'r' :: 'a' :: 'n' :: 'g' :: 'e' :: '(' :: rest => bounds? 3 rest
  | _ => none

/-- Only ASCII digits count here. -/
def boundValue? (bound : List Char) : Option Int64 :=
  let (negative, digits) := match bound with
    | '-' :: rest => (true, rest)
    | _ => (false, bound)
  if digits.all Char.isDigit then
    let magnitude : Int := Nat.ofDigitChars 10 digits 0
    fitting? (if negative then -magnitude else magnitude)
  else none

def boundValue (bound : List Char) : Except LoopFlaw Int64 :=
  match boundValue? bound with
  | some value => .ok value
  | none => .error (.boundOutOfRange (String.ofList bound))

/-- A missing start is zero, and a missing step is one. -/
def ofExpression (expression : String) : Except LoopFlaw Range :=
  match expressionBounds? expression.toList with
  | none => .error (.unsupportedExpression expression)
  | some bounds => do
    match ← bounds.mapM boundValue with
    | [stop] => checked 0 stop 1
    | [start, stop] => checked start stop 1
    | [start, stop, step] => checked start stop step
    | _ => .error (.unsupportedExpression expression)

end HostTree.Range
