/-!
# Which log lines are shown

A log filter is a list of directives, separated by commas. A directive is a level, which concerns
every line; or the beginning of a target, which lets all lines of such targets through; or both,
with an equals sign between them. Of the directives that concern a line, the one with the longest
target decides, and of two with the same target the later one.

A directive may also name a span, in brackets. Nothing here is logged inside a span, so such a
directive concerns no line at all.
-/

namespace WatchLink

set_option autoImplicit false

namespace Console

inductive Severity where
  | error
  | warn
  | info
  deriving DecidableEq, Repr

def Severity.name : Severity → String
  | error => "ERROR"
  | warn => "WARN"
  | info => "INFO"

/-- The severities that a level lets through: a level lets through the graver ones too. -/
def Severity.rank : Severity → Nat
  | error => 1
  | warn => 2
  | info => 3

inductive Directive where
  /-- Lines of targets that begin like this are shown up to this level. -/
  | upTo (target : List Char) (level : Nat)
  | inSpan
  deriving DecidableEq, Repr

abbrev LogFilter := List Directive

namespace LogFilter

def everything : Nat := 5

def levelOf (word : String) : Option Nat :=
  match word.toLower with
  | "off" | "0" => some 0
  | "error" | "1" => some 1
  | "warn" | "2" => some 2
  | "info" | "3" => some 3
  | "debug" | "4" => some 4
  | "trace" | "5" => some 5
  | _ => none

def spells (letter : Char) : Bool :=
  letter.isAlphanum || letter == '_' || letter == ':' || letter == '-'

/-- The level behind a target; a target alone lets everything through. -/
def levelAfter : List Char → Option Nat
  | [] => some everything
  | ['='] => some everything
  | '=' :: word => levelOf (String.ofList word)
  | _ => none

/-- A directive about a span: what is in brackets, and a level. -/
def spanDirective : List Char → Option Directive
  | '[' :: text =>
      match text.dropWhile (· != ']') with
      | ']' :: rest => (levelAfter rest).map fun _ => .inSpan
      | _ => none
  | _ => none

def directive (text : String) : Option Directive :=
  match levelOf text with
  | some level => some (.upTo [] level)
  | none =>
      let target := text.toList.takeWhile spells
      let rest := text.toList.dropWhile spells
      match rest with
      | '[' :: _ => spanDirective rest
      | _ => if target.isEmpty then none else (levelAfter rest).map (Directive.upTo target)

/-- The filter where none is given, or one that makes no sense. -/
def usual : LogFilter := [.upTo [] 3, .upTo "radium".toList 4]

/-- The filter that a text stands for. A filter without directives shows errors. -/
def parse : Option String → LogFilter
  | none => usual
  | some text =>
      match ((text.splitOn ",").filter (· != "")).mapM directive with
      | none => usual
      | some [] => [.upTo [] 1]
      | some directives => directives

/-- The better of two directives: the one with the longer target, the later of equals. -/
def choose (target : List Char) (best : Option (Nat × Nat)) : Directive → Option (Nat × Nat)
  | .inSpan => best
  | .upTo start level =>
      if start.isPrefixOf target && best.all (fun found => found.1 ≤ start.length) then
        some (start.length, level)
      else best

def shows (filter : LogFilter) (severity : Severity) (target : String) : Bool :=
  (filter.foldl (choose target.toList) none).any fun found => severity.rank ≤ found.2

end LogFilter

end Console

end WatchLink
