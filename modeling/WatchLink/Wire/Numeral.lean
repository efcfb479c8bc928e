import WatchLink.Wire.DecodeError

/-!
# Numbers on the wire

Every number is written big-endian in a fixed count of bytes. `BigEndian.digits` and
`BigEndian.value` are the positional system itself; a `Numeral` ties a type of numbers to its width,
and the readers at the end take numbers and blocks from the front of a byte string.
-/

namespace WatchLink

set_option autoImplicit false

namespace BigEndian

/-- The `width` lowest base-256 digits of a number, most significant first. -/
def digits : Nat → Nat → Bytes
  | 0, _ => []
  | width + 1, value => digits width (value / 256) ++ [UInt8.ofNat value]

def capacity : Nat → Nat
  | 0 => 1
  | width + 1 => 256 * capacity width

def value (bytes : Bytes) : Nat :=
  bytes.foldl (fun total byte => 256 * total + byte.toNat) 0

@[simp] theorem length_digits (width number : Nat) : (digits width number).length = width := by
  induction width generalizing number with
  | zero => rfl
  | succ width ih => simp [digits, ih]

theorem value_append_singleton (bytes : Bytes) (byte : UInt8) :
    value (bytes ++ [byte]) = 256 * value bytes + byte.toNat := by
  simp [value]

theorem value_digits (width number : Nat) (bounded : number < capacity width) :
    value (digits width number) = number := by
  induction width generalizing number with
  | zero =>
      have zero : number = 0 := by simpa [capacity] using bounded
      simp [digits, value, zero]
  | succ width ih =>
      have quotient : number / 256 < capacity width := by
        rw [capacity] at bounded
        omega
      have lowest : (UInt8.ofNat number).toNat = number % 256 := UInt8.toNat_ofNat'
      rw [digits, value_append_singleton, ih _ quotient, lowest]
      omega

end BigEndian

/-- How the numbers of a type are written: in `width` bytes, through their place among the numbers
that so many bytes can tell apart. -/
structure Numeral (Number : Type) where
  width : Nat
  toNat : Number → Nat
  ofNat : Nat → Number
  toNat_lt : ∀ number, toNat number < BigEndian.capacity width
  ofNat_toNat : ∀ number, ofNat (toNat number) = number
  toNat_ofNat : ∀ place, place < BigEndian.capacity width → toNat (ofNat place) = place

/-- A way to take a value from the front of a byte string, with what follows it. -/
abbrev Reader (Value : Type) := Bytes → Option (Value × Bytes)

def Reader.block (count : Nat) : Reader Bytes := fun bytes =>
  if bytes.length < count then none else some (bytes.take count, bytes.drop count)

theorem Reader.block_append (front rest : Bytes) :
    Reader.block front.length (front ++ rest) = some (front, rest) := by
  simp [Reader.block]

theorem Reader.block_eq_none_iff (count : Nat) (bytes : Bytes) :
    Reader.block count bytes = none ↔ bytes.length < count := by
  unfold Reader.block
  split <;> simp_all

namespace Numeral

variable {Number : Type}

def byte : Numeral UInt8 where
  width := 1
  toNat := UInt8.toNat
  ofNat := UInt8.ofNat
  toNat_lt number := number.toNat_lt
  ofNat_toNat _ := UInt8.ofNat_toNat
  toNat_ofNat _ bounded := UInt8.toNat_ofNat_of_lt' bounded

def short : Numeral UInt16 where
  width := 2
  toNat := UInt16.toNat
  ofNat := UInt16.ofNat
  toNat_lt number := number.toNat_lt
  ofNat_toNat _ := UInt16.ofNat_toNat
  toNat_ofNat _ bounded := UInt16.toNat_ofNat_of_lt' bounded

def long : Numeral UInt64 where
  width := 8
  toNat := UInt64.toNat
  ofNat := UInt64.ofNat
  toNat_lt number := number.toNat_lt
  ofNat_toNat _ := UInt64.ofNat_toNat
  toNat_ofNat _ bounded := UInt64.toNat_ofNat_of_lt' bounded

/-- Eight bytes that hold a signed number in two's complement. -/
def signed : Numeral Int64 where
  width := 8
  toNat number := number.toUInt64.toNat
  ofNat place := (UInt64.ofNat place).toInt64
  toNat_lt number := number.toUInt64.toNat_lt
  ofNat_toNat number := by simp
  toNat_ofNat place bounded := by
    rw [UInt64.toUInt64_toInt64]
    exact UInt64.toNat_ofNat_of_lt' bounded

def encode (numeral : Numeral Number) (number : Number) : Bytes :=
  BigEndian.digits numeral.width (numeral.toNat number)

def read (numeral : Numeral Number) : Reader Number := fun bytes =>
  (Reader.block numeral.width bytes).map fun (front, rest) =>
    (numeral.ofNat (BigEndian.value front), rest)

/-- The number at the front of `bytes`; what follows it is ignored. -/
def decode (numeral : Numeral Number) (bytes : Bytes) : Except DecodeError Number :=
  match numeral.read bytes with
  | some (number, _) => .ok number
  | none => .error (.tooShort numeral.width bytes.length)

@[simp] theorem length_encode (numeral : Numeral Number) (number : Number) :
    (numeral.encode number).length = numeral.width := by
  simp [encode]

theorem read_encode_append (numeral : Numeral Number) (number : Number) (rest : Bytes) :
    numeral.read (numeral.encode number ++ rest) = some (number, rest) := by
  have front := Reader.block_append (numeral.encode number) rest
  rw [length_encode] at front
  rw [read, front]
  simp [encode, BigEndian.value_digits _ _ (numeral.toNat_lt number), numeral.ofNat_toNat]

theorem read_eq_none_iff (numeral : Numeral Number) (bytes : Bytes) :
    numeral.read bytes = none ↔ bytes.length < numeral.width := by
  simp [read, Reader.block_eq_none_iff]

end Numeral

end WatchLink
