import Mathlib.Data.List.Induction
import WatchLink.Wire.Numeral

/-!
# Numbers and their bytes

A fixed count of bytes and the numbers below its capacity are the same thing: `value_digits` is one
direction, `digits_value` the other. So a numeral reads a number from the front of a byte string
just where the string begins with the bytes of that number.
-/

namespace WatchLink

set_option autoImplicit false

namespace BigEndian

theorem value_lt_capacity (bytes : Bytes) : value bytes < capacity bytes.length := by
  induction bytes using List.reverseRecOn with
  | nil => decide
  | append_singleton bytes byte ih =>
      have lowest := byte.toNat_lt
      rw [value_append_singleton, List.length_append, List.length_singleton, capacity]
      omega

theorem digits_value (bytes : Bytes) : digits bytes.length (value bytes) = bytes := by
  induction bytes using List.reverseRecOn with
  | nil => rfl
  | append_singleton bytes byte ih =>
      have lowest := byte.toNat_lt
      have quotient : (256 * value bytes + byte.toNat) / 256 = value bytes := by omega
      have digit : UInt8.ofNat (256 * value bytes + byte.toNat) = byte := by
        apply UInt8.toNat_inj.mp
        rw [UInt8.toNat_ofNat']
        omega
      rw [value_append_singleton, List.length_append, List.length_singleton, digits, quotient,
        digit, ih]

end BigEndian

theorem Reader.block_eq_some_iff (count : Nat) (bytes front rest : Bytes) :
    Reader.block count bytes = some (front, rest) ↔
      front.length = count ∧ bytes = front ++ rest := by
  constructor
  · intro read
    unfold block at read
    split at read
    · cases read
    next enough =>
      cases read
      exact ⟨by rw [List.length_take]; omega, (List.take_append_drop count bytes).symm⟩
  · rintro ⟨rfl, rfl⟩
    exact block_append front rest

namespace Numeral

variable {Number : Type}

theorem encode_of_length (numeral : Numeral Number) (bytes : Bytes)
    (fits : bytes.length = numeral.width) :
    numeral.encode (numeral.ofNat (BigEndian.value bytes)) = bytes := by
  have bounded := BigEndian.value_lt_capacity bytes
  rw [fits] at bounded
  rw [encode, numeral.toNat_ofNat _ bounded, ← fits, BigEndian.digits_value]

theorem encode_byte (number : UInt8) : byte.encode number = [number] := by
  simp [encode, byte, BigEndian.digits]

theorem read_eq_some_iff (numeral : Numeral Number) (bytes : Bytes) (number : Number)
    (rest : Bytes) :
    numeral.read bytes = some (number, rest) ↔ bytes = numeral.encode number ++ rest := by
  constructor
  · intro found
    simp only [read, Option.map_eq_some_iff, Prod.mk.injEq, Prod.exists] at found
    obtain ⟨front, behind, taken, rfl, rfl⟩ := found
    obtain ⟨fits, rfl⟩ := (Reader.block_eq_some_iff _ _ _ _).mp taken
    rw [encode_of_length numeral front fits]
  · rintro rfl
    exact read_encode_append numeral number rest

theorem read_byte_cons (first : UInt8) (rest : Bytes) :
    byte.read (first :: rest) = some (first, rest) := by
  rw [read_eq_some_iff, encode_byte]
  rfl

/-- Every byte string that is long enough begins with the bytes of a number. -/
theorem exists_eq_encode_append (numeral : Numeral Number) (bytes : Bytes)
    (long : numeral.width ≤ bytes.length) :
    ∃ number rest, bytes = numeral.encode number ++ rest := by
  cases found : numeral.read bytes with
  | none =>
      have short := (numeral.read_eq_none_iff bytes).mp found
      omega
  | some pair => exact ⟨pair.1, pair.2, (numeral.read_eq_some_iff _ _ _).mp found⟩

theorem decode_eq_ok_iff (numeral : Numeral Number) (bytes : Bytes) (number : Number) :
    numeral.decode bytes = .ok number ↔ ∃ rest, bytes = numeral.encode number ++ rest := by
  unfold decode
  cases found : numeral.read bytes with
  | none =>
      constructor
      · intro decoded
        cases decoded
      · rintro ⟨rest, rfl⟩
        rw [read_encode_append] at found
        cases found
  | some pair =>
      obtain ⟨front, behind⟩ := pair
      obtain rfl := (read_eq_some_iff _ _ _ _).mp found
      constructor
      · intro decoded
        cases decoded
        exact ⟨behind, rfl⟩
      · rintro ⟨rest, same⟩
        rw [same, read_encode_append] at found
        cases found
        rfl

theorem value_encode (numeral : Numeral Number) (number : Number) :
    BigEndian.value (numeral.encode number) = numeral.toNat number :=
  BigEndian.value_digits _ _ (numeral.toNat_lt number)

end Numeral

end WatchLink
