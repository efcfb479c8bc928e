import WatchLink.Console.Value

/-!
# Numbers in decimal

How a whole number is written: digits, with zeros in front of them or not, and in front of those a
minus where the number is negative, and a plus or nothing where it is not. `Decimal` says this
without reading anything; a value on the command line is read as the number that it is written for.
-/

namespace WatchLink

set_option autoImplicit false

namespace Console

/-- These characters are the decimal digits of a number, zeros in front of them allowed. -/
structure Denotes (digits : List Char) (number : Nat) : Prop where
  nonempty : digits ≠ []
  digital : ∀ digit ∈ digits, digit.isDigit = true
  value : Nat.ofDigitChars 10 digits 0 = number

inductive Decimal : String → Int → Prop where
  | bare {digits : List Char} {number : Nat} (denotes : Denotes digits number) :
      Decimal (String.ofList digits) number
  | plus {digits : List Char} {number : Nat} (denotes : Denotes digits number) :
      Decimal (String.ofList ('+' :: digits)) number
  | minus {digits : List Char} {number : Nat} (denotes : Denotes digits number)
      (positive : 0 < number) : Decimal (String.ofList ('-' :: digits)) (-number)

def Hyphened (word : String) : Prop := word.toList.head? = some '-'

instance (word : String) : Decidable (Hyphened word) :=
  inferInstanceAs (Decidable (word.toList.head? = some '-'))

theorem denotes_to_digits (number : Nat) : Denotes (Nat.toDigits 10 number) number where
  nonempty := Nat.toDigits_ne_nil
  digital _ member := Nat.isDigit_of_mem_toDigits (by decide) (by decide) member
  value := Nat.ofDigitChars_ten_toDigits

theorem decimal_to_string (number : Int) : Decimal (toString number) number := by
  cases number with
  | ofNat number =>
      have spelled : toString (Int.ofNat number) = String.ofList (Nat.toDigits 10 number) :=
        Nat.repr_eq_ofList_toDigits
      rw [spelled]
      exact .bare (denotes_to_digits number)
  | negSucc number =>
      have spelled : toString (Int.negSucc number) =
          String.ofList ('-' :: Nat.toDigits 10 (number + 1)) := by
        show "-" ++ (number + 1).repr = _
        rw [Nat.repr_eq_ofList_toDigits, String.ofList_cons]
        rfl
      rw [spelled]
      exact .minus (denotes_to_digits (number + 1)) (Nat.succ_pos number)

section Reading

variable {digits : List Char} {number : Nat} {text : String} {whole : Int}

theorem read_digits_of_denotes (denotes : Denotes digits number) :
    readDigits digits = some number := by
  have nonempty : digits.isEmpty = false := by simpa using denotes.nonempty
  have digital : digits.all Char.isDigit = true := List.all_eq_true.mpr denotes.digital
  rw [readDigits, nonempty, digital, ← denotes.value]
  rfl

theorem exists_digit_of_denotes (denotes : Denotes digits number) :
    ∃ first rest, digits = first :: rest ∧ first.isDigit = true := by
  obtain ⟨first, rest, rfl⟩ := List.exists_cons_of_ne_nil denotes.nonempty
  exact ⟨first, rest, rfl, denotes.digital first List.mem_cons_self⟩

theorem read_integer_of_digits (denotes : Denotes digits number) :
    readInteger digits = some (Int.ofNat number) := by
  have read := read_digits_of_denotes denotes
  obtain ⟨first, rest, rfl, digit⟩ := exists_digit_of_denotes denotes
  unfold readInteger
  split
  next same =>
    cases same
    cases digit
  next same =>
    cases same
    cases digit
  next => rw [read]; rfl

theorem read_integer_of_decimal (decimal : Decimal text whole) :
    readInteger text.toList = some whole := by
  cases decimal with
  | bare denotes =>
      rw [String.toList_ofList, read_integer_of_digits denotes]
      rfl
  | plus denotes | minus denotes =>
      rw [String.toList_ofList, readInteger, read_digits_of_denotes denotes]
      rfl

theorem hyphen_digit_of_negative (decimal : Decimal text whole) (negative : whole < 0) :
    ∃ first rest, text.toList = '-' :: first :: rest ∧ first.isDigit = true := by
  cases decimal with
  | bare | plus => omega
  | minus denotes =>
      obtain ⟨first, rest, rfl, digit⟩ := exists_digit_of_denotes denotes
      exact ⟨first, rest, String.toList_ofList, digit⟩

theorem not_hyphened_of_decimal (decimal : Decimal text whole) (natural : 0 ≤ whole) :
    ¬Hyphened text := by
  cases decimal with
  | bare denotes =>
      obtain ⟨first, rest, rfl, digit⟩ := exists_digit_of_denotes denotes
      rw [Hyphened, String.toList_ofList, List.head?_cons, Option.some.injEq]
      rintro rfl
      cases digit
  | plus => simp [Hyphened]
  | minus denotes positive => omega

end Reading

end Console

end WatchLink
