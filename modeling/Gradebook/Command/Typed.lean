import Gradebook.Command.Basic
import Gradebook.Text.Blank
import Gradebook.Text.Decimal

/-!
# Typed commands

A typed line is read word by word.  The first word may name homework, stamps or a penalty;
otherwise the line records a grade as unit, question and status.
-/

namespace Gradebook

inductive CommandError where
  | tooFewWords (input : String)
  | unknownStatus (token : String)
  | noAmount (token : String)
deriving DecidableEq

def CommandError.message : CommandError → String
  | tooFewWords input => s!"Invalid command: {input}"
  | unknownStatus token => s!"Invalid status: {token} (expected O/X/△)"
  | noAmount token => s!"Invalid amount: {token}"

namespace Command

/-- Stands for a unit or range of homework that is not given. -/
def unspecified : String := "unspecified"

def homeworkHeads : List String := ["!homework", "!숙제"]

def stampHeads : List String := ["!stamp", "!도장"]

def penaltyHeads : List String := ["!penalty", "!징벌"]

/-- The digits of an amount: those at the front, after at most one sign. -/
def amountDigits (token : List Char) : List Char :=
  match token with
  | '+' :: rest | '-' :: rest => rest.takeWhile Char.isDigit
  | _ => token.takeWhile Char.isDigit

/-- The amount that a word begins with, held at the largest count. -/
def amount (token : String) : Except CommandError Count :=
  match amountDigits token.toList with
  | [] => .error (.noAmount token)
  | ds => .ok (.clamp (Text.digitsValue ds))

def homework : List String → Command
  | [] => .assignHomework unspecified unspecified
  | [unit] => .assignHomework unit unspecified
  | unit :: range => .assignHomework unit (" ".intercalate range)

def stamps : List String → Except CommandError Command
  | [] => .ok .ignored
  | token :: _ =>
    match token.toList with
    | '+' :: _ => .addStamps <$> amount token
    | '-' :: _ => .removeStamps <$> amount token
    | _ => .ok .ignored

/-- The penalty of the words after the first; the sign of the amount does not matter. -/
def sheets : List String → Except CommandError Command
  | [] => .ok (.penalty .zero)
  | token :: _ => .penalty <$> amount token

def grade (input : String) : List String → Except CommandError Command
  | unit :: question :: rest =>
    let token := rest.headD ""
    match Status.ofToken? token with
    | some status => .ok (.recordGrade unit question status)
    | none => .error (.unknownStatus (Text.upper token))
  | _ => .error (.tooFewWords (Text.trim input))

/-- The command that a typed line asks for. -/
def parse (input : String) : Except CommandError Command :=
  match Text.words input with
  | [] => .error (.tooFewWords (Text.trim input))
  | head :: rest =>
    if head ∈ homeworkHeads then .ok (homework rest)
    else if head ∈ stampHeads then stamps rest
    else if head ∈ penaltyHeads then sheets rest
    else grade input (head :: rest)

end Command

end Gradebook
