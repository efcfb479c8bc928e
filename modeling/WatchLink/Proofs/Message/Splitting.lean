import WatchLink.Proofs.Message.Responses
import WatchLink.Proofs.Wire.Order

/-!
# Where a response splits its chunk

The value of a response is decoded from the front of its chunk, and what follows it is cut off by
the width that the revision states. Both find the same place: `decode_splits_chunk` says that the
bytes of the value and what follows them are the chunk, and that a longer chunk only adds to what
follows.
-/

namespace WatchLink

set_option autoImplicit false

theorem Numeral.decode_append {Number : Type} {numeral : Numeral Number} {bytes : Bytes}
    {number : Number} (decoded : numeral.decode bytes = .ok number) (more : Bytes) :
    numeral.decode (bytes ++ more) = .ok number := by
  obtain ⟨rest, rfl⟩ := (numeral.decode_eq_ok_iff _ _).mp decoded
  rw [List.append_assoc]
  exact numeral.decode_encode_append number (rest ++ more)

namespace Response

variable {revision : Revision} {chunk : Bytes} {response : Response}

/-- The bytes of the value, in the width of the revision. -/
def lead (response : Response) : Bytes :=
  BigEndian.digits response.revision.responseWidth response.value.toNat

theorem response_width_of_modern (modern : revision ≠ .v1) :
    revision.responseWidth = Numeral.byte.width := by
  cases revision with
  | v1 => exact (modern rfl).elim
  | v2 | v3 => rfl

theorem lead_of_byte (modern : revision ≠ .v1) (byte : UInt8) (chunk : Bytes) :
    lead { revision, value := byte.toUInt16, chunk } = Numeral.byte.encode byte := by
  simp only [lead, response_width_of_modern modern, UInt8.toNat_toUInt16]
  rfl

theorem decode_of_short (short : chunk.length < revision.responseWidth) :
    decode revision chunk = .error (.tooShort revision.responseWidth chunk.length) := by
  cases revision with
  | v1 =>
      have unread := Numeral.short.decode_of_short chunk short
      simp only [decode, unread, bind, Except.bind]
      rfl
  | v2 | v3 =>
      have unread := Numeral.byte.decode_of_short chunk short
      simp only [decode, unread, bind, Except.bind]
      rfl

theorem exists_decode_of_long (long : revision.responseWidth ≤ chunk.length) :
    ∃ response, decode revision chunk = .ok response := by
  by_cases old : revision = .v1
  · subst old
    obtain ⟨number, found, _⟩ := Numeral.short.exists_decode_of_length chunk long
    exact ⟨_, decode_short_eq_ok_iff.mpr ⟨number, found, rfl⟩⟩
  · rw [response_width_of_modern old] at long
    obtain ⟨byte, found, _⟩ := Numeral.byte.exists_decode_of_length chunk long
    exact ⟨_, (decode_eq_ok_iff old).mpr ⟨byte, found, rfl⟩⟩

/-- What is cut off begins where the value ends. -/
theorem lead_append_trailing (decoded : decode revision chunk = .ok response) :
    response.lead ++ response.trailing = chunk := by
  have ends : response.lead.length = response.revision.responseWidth :=
    BigEndian.length_digits _ _
  have begins : ∃ rest, response.chunk = response.lead ++ rest := by
    by_cases old : revision = .v1
    · subst old
      obtain ⟨number, found, rfl⟩ := decode_short_eq_ok_iff.mp decoded
      exact (Numeral.decode_eq_ok_iff _ _ _).mp found
    · obtain ⟨byte, found, rfl⟩ := (decode_eq_ok_iff old).mp decoded
      rw [lead_of_byte old]
      exact (Numeral.decode_eq_ok_iff _ _ _).mp found
  obtain ⟨rest, split⟩ := begins
  rw [trailing, ← ends, split, List.drop_left, ← split]
  exact (origin_of_decode decoded).2

theorem value_le_of_decode (modern : revision ≠ .v1)
    (decoded : decode revision chunk = .ok response) : response.value.toNat ≤ 255 := by
  obtain ⟨byte, _, rfl⟩ := (decode_eq_ok_iff modern).mp decoded
  rw [UInt8.toNat_toUInt16]
  exact Nat.le_of_lt_succ byte.toNat_lt

theorem decode_append (decoded : decode revision chunk = .ok response) (more : Bytes) :
    decode revision (chunk ++ more) = .ok { response with chunk := chunk ++ more } := by
  by_cases old : revision = .v1
  · subst old
    obtain ⟨number, found, rfl⟩ := decode_short_eq_ok_iff.mp decoded
    exact decode_short_eq_ok_iff.mpr ⟨number, Numeral.decode_append found more, rfl⟩
  · obtain ⟨byte, found, rfl⟩ := (decode_eq_ok_iff old).mp decoded
    exact (decode_eq_ok_iff old).mpr ⟨byte, Numeral.decode_append found more, rfl⟩

theorem trailing_of_append (decoded : decode revision chunk = .ok response) (more : Bytes) :
    ({ response with chunk := chunk ++ more } : Response).trailing = response.trailing ++ more := by
  have longer := lead_append_trailing (decode_append decoded more)
  nth_rewrite 3 [← lead_append_trailing decoded] at longer
  rw [List.append_assoc] at longer
  exact List.append_cancel_left longer

/-- A response holds on to all of the chunk that it was decoded from. -/
structure Holds (revision : Revision) (chunk : Bytes) (response : Response) : Prop where
  kept : response.chunk = chunk
  joins : BigEndian.digits revision.responseWidth response.value.toNat ++ response.trailing = chunk
  small : revision ≠ .v1 → response.value.toNat ≤ 255
  grows : ∀ more, ∃ longer, decode revision (chunk ++ more) = .ok longer ∧
    longer.value = response.value ∧ longer.trailing = response.trailing ++ more

/-- Only a chunk that is too short for the value carries no response. -/
theorem decode_splits_chunk (revision : Revision) (chunk : Bytes) :
    (revision.responseWidth ≤ chunk.length ↔ ∃ response, decode revision chunk = .ok response) ∧
      (chunk.length < revision.responseWidth →
        decode revision chunk = .error (.tooShort revision.responseWidth chunk.length)) ∧
      ∀ response, decode revision chunk = .ok response → response.Holds revision chunk := by
  refine ⟨⟨exists_decode_of_long, ?_⟩, decode_of_short, ?_⟩
  · rintro ⟨response, decoded⟩
    by_contra short
    rw [decode_of_short (Nat.not_le.mp short)] at decoded
    cases decoded
  · intro response decoded
    obtain ⟨spoken, kept⟩ := origin_of_decode decoded
    refine ⟨kept, ?_, fun modern => value_le_of_decode modern decoded, ?_⟩
    · rw [← spoken]
      exact lead_append_trailing decoded
    · intro more
      exact ⟨_, decode_append decoded more, rfl, trailing_of_append decoded more⟩

end Response

end WatchLink
