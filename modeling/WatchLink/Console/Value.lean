/-!
# Values on a command line

A value is a text. What it has to look like is given by its kind; a number is written in decimal
digits, with a sign in front if the kind has one.
-/

namespace WatchLink

set_option autoImplicit false

namespace Console

inductive ValueKind where
  | text
  | word (choices : List String)
  /-- A whole number between these two, with a plus or a minus in front or neither. -/
  | integer (least greatest : Int)
  /-- A natural number up to this one, with a plus in front or not. -/
  | natural (greatest : Nat)
  deriving DecidableEq, Repr

/-- The number that a string of decimal digits denotes; an empty string denotes none. -/
def readDigits (digits : List Char) : Option Nat :=
  if digits.isEmpty || !digits.all Char.isDigit then none
  else some (digits.foldl (fun total digit => 10 * total + (digit.toNat - '0'.toNat)) 0)

def readNatural : List Char → Option Nat
  | '+' :: digits => readDigits digits
  | digits => readDigits digits

def readInteger : List Char → Option Int
  | '+' :: digits => (readDigits digits).map Int.ofNat
  | '-' :: digits => (readDigits digits).map fun value => -(Int.ofNat value)
  | digits => (readDigits digits).map Int.ofNat

def ValueKind.accepts (kind : ValueKind) (value : String) : Bool :=
  match kind with
  | text => true
  | word choices => choices.contains value
  | integer least greatest =>
      (readInteger value.toList).any fun number => least ≤ number && number ≤ greatest
  | natural greatest => (readNatural value.toList).any fun number => number ≤ greatest

end Console

end WatchLink
