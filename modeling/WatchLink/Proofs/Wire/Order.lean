import WatchLink.Proofs.Wire.Digits

/-!
# Numbers in order

The most significant byte stands first. So of two byte strings of one length the one that comes
first in a dictionary denotes the smaller number, and a numeral takes its numbers, in order, to all
byte strings of its width: `unsigned_numerals_faithful` says so of the numbers without a sign. A
signed number does not keep the order, since its sign stands in the highest bit.
-/

namespace WatchLink

set_option autoImplicit false

namespace BigEndian

theorem value_cons (first : UInt8) (rest : Bytes) :
    value (first :: rest) = first.toNat * capacity rest.length + value rest := by
  induction rest using List.reverseRecOn with
  | nil => simp [value, capacity]
  | append_singleton rest last ih =>
      rw [← List.cons_append, value_append_singleton, ih, value_append_singleton,
        List.length_append, List.length_singleton, capacity, Nat.mul_add, Nat.mul_left_comm,
        Nat.add_assoc]

/-- A digit outweighs everything behind it. -/
theorem value_cons_lt {first other : UInt8} {rest others : Bytes}
    (same : rest.length = others.length) (smaller : first < other) :
    value (first :: rest) < value (other :: others) := by
  have bounded := value_lt_capacity rest
  have step : (first.toNat + 1) * capacity rest.length ≤ other.toNat * capacity rest.length :=
    Nat.mul_le_mul_right _ (UInt8.lt_iff_toNat_lt.mp smaller)
  rw [value_cons, value_cons, ← same]
  rw [Nat.add_mul, Nat.one_mul] at step
  omega

theorem value_lt_value_iff {bytes others : Bytes} (same : bytes.length = others.length) :
    value bytes < value others ↔ bytes < others := by
  induction bytes generalizing others with
  | nil =>
      obtain rfl := List.eq_nil_of_length_eq_zero same.symm
      simp
  | cons first rest ih =>
      cases others with
      | nil => cases same
      | cons other behind =>
          have shorter : rest.length = behind.length := Nat.succ.inj same
          rw [List.cons_lt_cons_iff]
          rcases Nat.lt_trichotomy first.toNat other.toNat with smaller | equal | greater
          · exact iff_of_true (value_cons_lt shorter smaller) (.inl smaller)
          · obtain rfl := UInt8.toNat_inj.mp equal
            rw [value_cons, value_cons, shorter, Nat.add_lt_add_iff_left, ih shorter]
            simp
          · have reversed := value_cons_lt shorter.symm greater
            refine iff_of_false (Nat.lt_asymm reversed) ?_
            rintro (smaller | ⟨rfl, _⟩)
            · exact UInt8.lt_asymm smaller greater
            · exact UInt8.lt_irrefl _ greater

end BigEndian

namespace Numeral

variable {Number : Type}

/-- Writing and reading are inverse to each other, between all numbers of a type and all byte
strings of so many bits, and keep the order. Whatever stands behind a number is ignored. -/
structure Faithful [LT Number] (numeral : Numeral Number) (bits : Nat) : Prop where
  fills : ∀ number, (numeral.encode number).length = bits / 8
  reads : ∀ number rest, numeral.decode (numeral.encode number ++ rest) = .ok number
  writes : ∀ bytes, bits / 8 ≤ bytes.length →
    ∃ number, numeral.decode bytes = .ok number ∧ numeral.encode number = bytes.take (bits / 8)
  refuses : ∀ bytes, bytes.length < bits / 8 →
    numeral.decode bytes = .error (.tooShort (bits / 8) bytes.length)
  orders : ∀ number other, number < other ↔ numeral.encode number < numeral.encode other

theorem decode_encode_append (numeral : Numeral Number) (number : Number) (rest : Bytes) :
    numeral.decode (numeral.encode number ++ rest) = .ok number :=
  (numeral.decode_eq_ok_iff _ _).mpr ⟨rest, rfl⟩

theorem exists_decode_of_length (numeral : Numeral Number) (bytes : Bytes)
    (long : numeral.width ≤ bytes.length) :
    ∃ number, numeral.decode bytes = .ok number ∧
      numeral.encode number = bytes.take numeral.width := by
  obtain ⟨number, rest, rfl⟩ := numeral.exists_eq_encode_append bytes long
  refine ⟨number, numeral.decode_encode_append number rest, ?_⟩
  rw [← numeral.length_encode number, List.take_left]

theorem decode_of_short (numeral : Numeral Number) (bytes : Bytes)
    (short : bytes.length < numeral.width) :
    numeral.decode bytes = .error (.tooShort numeral.width bytes.length) := by
  unfold decode
  rw [(numeral.read_eq_none_iff bytes).mpr short]

theorem encode_lt_encode_iff (numeral : Numeral Number) (number other : Number) :
    numeral.encode number < numeral.encode other ↔ numeral.toNat number < numeral.toNat other := by
  have same : (numeral.encode number).length = (numeral.encode other).length := by
    rw [length_encode, length_encode]
  rw [← BigEndian.value_lt_value_iff same, value_encode, value_encode]

/-- All of it comes down to the places of the numbers being in order. -/
theorem faithful_of_places [LT Number] (numeral : Numeral Number)
    (places : ∀ number other, number < other ↔ numeral.toNat number < numeral.toNat other) :
    numeral.Faithful (8 * numeral.width) := by
  have width : 8 * numeral.width / 8 = numeral.width := Nat.mul_div_cancel_left _ (by decide)
  constructor
  · intro number
    rw [width, length_encode]
  · exact numeral.decode_encode_append
  · intro bytes
    rw [width]
    exact numeral.exists_decode_of_length bytes
  · intro bytes
    rw [width]
    exact numeral.decode_of_short bytes
  · intro number other
    rw [places, encode_lt_encode_iff]

/-- There is but one way to keep the order between two finite sets of one size, so this leaves no
choice of the bytes. -/
theorem unsigned_numerals_faithful :
    byte.Faithful 8 ∧ short.Faithful 16 ∧ long.Faithful 64 := by
  refine ⟨?_, ?_, ?_⟩
  · exact faithful_of_places byte fun _ _ => UInt8.lt_iff_toNat_lt
  · exact faithful_of_places short fun _ _ => UInt16.lt_iff_toNat_lt
  · exact faithful_of_places long fun _ _ => UInt64.lt_iff_toNat_lt

/-- A negative number has its highest bit set, and comes last. -/
example : signed.encode 1 < signed.encode (-1) := by decide

end Numeral

end WatchLink
