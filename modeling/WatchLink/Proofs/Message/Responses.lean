import Mathlib.Data.List.Basic
import WatchLink.Proofs.Message.Verdicts
import WatchLink.Response

/-!
# The readings of a response

A response is looked at in two ways. Its value, together with the revision, gives the type of a
message; the chunk that it keeps gives a confirmation or a refusal, whatever the revision is. Under
the later revisions both begin with the same byte and agree. A number of revision 1 fills two bytes
and has no type, but its first byte may be one: `readings_agree_iff` says which numbers are read as
replies that they are not.
-/

namespace WatchLink

set_option autoImplicit false

/-! ## What makes a reply -/

theorem RefusalCode.exists_byte_iff {value : UInt8} :
    (∃ code : RefusalCode, value = code.byte) ↔ value.toNat ≤ 4 := by
  constructor
  · rintro ⟨code, rfl⟩
    cases code <;> decide
  · intro small
    have listed : value = 0 ∨ value = 1 ∨ value = 2 ∨ value = 3 ∨ value = 4 := by
      simp only [← UInt8.toNat_inj, UInt8.reduceToNat]
      omega
    rcases listed with rfl | rfl | rfl | rfl | rfl
    · exact ⟨.clientRejected, rfl⟩
    · exact ⟨.actionNotImplemented, rfl⟩
    · exact ⟨.invalidAction, rfl⟩
    · exact ⟨.actionProcessingError, rfl⟩
    · exact ⟨.connectionFailure, rfl⟩

theorem EntryAdded.exists_parse_iff {chunk : Bytes} :
    (∃ added, parse chunk = .ok added) ↔
      size ≤ chunk.length ∧ chunk.head? = some MessageType.entryAdded.byte := by
  constructor
  · rintro ⟨added, parsed⟩
    obtain ⟨rest, rfl⟩ := parse_eq_ok_iff.mp parsed
    rw [List.length_append, length_bytes]
    exact ⟨Nat.le_add_right _ _, rfl⟩
  · rintro ⟨long, begins⟩
    cases parsed : parse chunk with
    | ok added => exact ⟨added, rfl⟩
    | error cause =>
        cases parse_eq_error_iff.mp parsed with
        | short short => omega
        | mistyped first payload _ other => exact (other (Option.some.inj begins)).elim

theorem Refusal.exists_parse_iff {chunk : Bytes} :
    (∃ refusal, parse chunk = .ok refusal) ↔
      ∃ (code : RefusalCode) (rest : Bytes),
        chunk = MessageType.error.byte :: code.byte :: rest := by
  constructor
  · rintro ⟨refusal, parsed⟩
    obtain ⟨rest, begins⟩ := parse_eq_ok_iff.mp parsed
    exact ⟨refusal.code, rest, begins⟩
  · rintro ⟨code, rest, begins⟩
    exact ⟨⟨code⟩, parse_eq_ok_iff.mpr ⟨rest, begins⟩⟩

/-! ## What is decoded -/

namespace Response

variable {revision : Revision} {chunk : Bytes} {response : Response}

theorem decode_short_eq_ok_iff :
    decode .v1 chunk = .ok response ↔
      ∃ number, Numeral.short.decode chunk = .ok number ∧
        response = { revision := .v1, value := number, chunk } := by
  cases decoded : Numeral.short.decode chunk <;>
    simp [decode, decoded, bind, Except.bind, pure, Except.pure, eq_comm]

theorem decode_eq_ok_iff (modern : revision ≠ .v1) :
    decode revision chunk = .ok response ↔
      ∃ byte, Numeral.byte.decode chunk = .ok byte ∧
        response = { revision, value := byte.toUInt16, chunk } := by
  cases revision with
  | v1 => exact (modern rfl).elim
  | v2 | v3 =>
      cases decoded : Numeral.byte.decode chunk <;>
        simp [decode, decoded, bind, Except.bind, pure, Except.pure, eq_comm]

theorem origin_of_decode (decoded : decode revision chunk = .ok response) :
    response.revision = revision ∧ response.chunk = chunk := by
  by_cases old : revision = .v1
  · subst old
    obtain ⟨number, _, rfl⟩ := decode_short_eq_ok_iff.mp decoded
    exact ⟨rfl, rfl⟩
  · obtain ⟨byte, _, rfl⟩ := (decode_eq_ok_iff old).mp decoded
    exact ⟨rfl, rfl⟩

theorem value_of_decode_short (decoded : decode .v1 chunk = .ok response) :
    ∃ high low rest, chunk = high :: low :: rest ∧
      response.value.toNat = 256 * high.toNat + low.toNat := by
  obtain ⟨number, found, rfl⟩ := decode_short_eq_ok_iff.mp decoded
  obtain ⟨rest, rfl⟩ := (Numeral.decode_eq_ok_iff _ _ _).mp found
  obtain ⟨high, low, pair⟩ := List.length_eq_two.mp (Numeral.length_encode Numeral.short number)
  have value := Numeral.value_encode Numeral.short number
  rw [pair] at value ⊢
  refine ⟨high, low, rest, rfl, ?_⟩
  rw [← show _ = number.toNat from value]
  simp [BigEndian.value]

theorem value_of_decode (modern : revision ≠ .v1) (decoded : decode revision chunk = .ok response) :
    ∃ first rest, chunk = first :: rest ∧ response.value = first.toUInt16 := by
  obtain ⟨first, found, rfl⟩ := (decode_eq_ok_iff modern).mp decoded
  obtain ⟨rest, rfl⟩ := (Numeral.decode_eq_ok_iff _ _ _).mp found
  exact ⟨first, rest, by rw [Numeral.encode_byte]; rfl, rfl⟩

theorem message_type_of_first (modern : revision ≠ .v1) (first : UInt8) (chunk : Bytes) :
    messageType { revision, value := first.toUInt16, chunk } = MessageType.ofByte first := by
  have small : ¬255 < first.toUInt16 := by
    have bounded := first.toNat_lt
    rw [UInt16.lt_iff_toNat_lt, UInt8.toNat_toUInt16]
    simp only [UInt16.reduceToNat]
    omega
  simp only [messageType, modern, small, or_self, if_false, UInt8.toUInt8_toUInt16]

theorem message_type_of_byte (modern : revision ≠ .v1) (kind : MessageType) (chunk : Bytes) :
    messageType { revision, value := kind.byte.toUInt16, chunk } = .ok kind :=
  (message_type_of_first modern kind.byte chunk).trans (MessageType.of_byte_eq_ok_iff.mpr rfl)

theorem message_type_eq_ok_iff (decoded : decode revision chunk = .ok response)
    {kind : MessageType} :
    response.messageType = .ok kind ↔ revision ≠ .v1 ∧ chunk.head? = some kind.byte := by
  obtain ⟨spoken, _⟩ := origin_of_decode decoded
  by_cases old : revision = .v1
  · rw [messageType, if_pos (.inl (spoken.trans old))]
    simp [old]
  · obtain ⟨first, rest, rfl, value⟩ := value_of_decode old decoded
    have typed : response.messageType = MessageType.ofByte first := by
      rw [← message_type_of_first old first response.chunk, ← value, ← spoken]
    rw [typed, MessageType.of_byte_eq_ok_iff]
    simp [old]

/-! ## Two ways to look -/

/-- The chunk is read as a reply only where the value is the type of that reply. -/
structure Agrees (response : Response) : Prop where
  added : ∀ added, response.entryAdded = .ok added → response.messageType = .ok .entryAdded
  refused : ∀ refusal, response.refusal = .ok refusal → response.messageType = .ok .error

/-- A number of revision 1 has the bytes of a reply of the later revisions: its upper byte is the
type of a confirmation, and enough follows it, or it is the type of a refusal, and its lower byte is
a code. -/
def Masquerades (response : Response) : Prop :=
  response.revision = .v1 ∧
    (response.value.toNat / 256 = 3 ∧ 11 ≤ response.chunk.length ∨
      0x0900 ≤ response.value.toNat ∧ response.value.toNat ≤ 0x0904)

theorem masquerades_iff (decoded : decode revision chunk = .ok response) :
    response.Masquerades ↔ revision = .v1 ∧
      ((EntryAdded.size ≤ chunk.length ∧ chunk.head? = some MessageType.entryAdded.byte) ∨
        ∃ (code : RefusalCode) (rest : Bytes),
          chunk = MessageType.error.byte :: code.byte :: rest) := by
  obtain ⟨spoken, kept⟩ := origin_of_decode decoded
  rw [Masquerades, spoken, kept]
  apply and_congr_right
  rintro rfl
  obtain ⟨high, low, rest, rfl, value⟩ := value_of_decode_short decoded
  have lowest := low.toNat_lt
  rw [value]
  apply or_congr
  · have upper : high = MessageType.entryAdded.byte ↔ high.toNat = 3 := UInt8.toNat_inj.symm
    rw [List.head?_cons, Option.some.injEq, upper, and_comm]
    apply and_congr_right
    intro _
    omega
  · constructor
    · rintro ⟨least, most⟩
      obtain ⟨code, rfl⟩ := RefusalCode.exists_byte_iff.mpr (show low.toNat ≤ 4 by omega)
      have upper : high = MessageType.error.byte :=
        UInt8.toNat_inj.mp (show high.toNat = 9 by omega)
      exact ⟨code, rest, by rw [upper]⟩
    · rintro ⟨code, others, same⟩
      cases same
      have nine : MessageType.error.byte.toNat = 9 := rfl
      have small := RefusalCode.exists_byte_iff.mp ⟨code, rfl⟩
      omega

/-- Where the value has the type of a reply, the chunk is read as that reply as soon as it is long
enough, up to a code that stands for nothing. The converse holds but for the numbers of revision 1
that masquerade, and for every one of those it fails. -/
theorem readings_agree_iff (decoded : decode revision chunk = .ok response) :
    (response.messageType = .ok .entryAdded → 11 ≤ chunk.length →
        ∃ added, response.entryAdded = .ok added) ∧
      (response.messageType = .ok .error → 2 ≤ chunk.length →
        (∃ refusal, response.refusal = .ok refusal) ∨
          ∃ code, chunk[1]? = some code ∧
            response.refusal = .error (.invalid "error code" code)) ∧
      (response.Agrees ↔ ¬response.Masquerades) := by
  obtain ⟨_, kept⟩ := origin_of_decode decoded
  refine ⟨?_, ?_, ?_⟩
  · intro typed long
    rw [entryAdded, kept]
    exact EntryAdded.exists_parse_iff.mpr ⟨long, ((message_type_eq_ok_iff decoded).mp typed).2⟩
  · intro typed long
    have begins := ((message_type_eq_ok_iff decoded).mp typed).2
    rw [refusal, kept]
    cases parsed : Refusal.parse chunk with
    | ok refusal => exact .inl ⟨refusal, rfl⟩
    | error cause =>
        rcases Refusal.parse_eq_error_iff.mp parsed with unopened | ⟨code, rest, _⟩
        · cases unopened with
          | short short => exact (Nat.not_lt.mpr long short).elim
          | mistyped first payload _ other => exact (other (Option.some.inj begins)).elim
        · exact .inr ⟨code, rfl, rfl⟩
  · rw [masquerades_iff decoded, ← EntryAdded.exists_parse_iff, ← Refusal.exists_parse_iff]
    constructor
    · rintro agrees ⟨old, ⟨added, parsed⟩ | ⟨refusal, parsed⟩⟩
      · rw [← kept] at parsed
        exact ((message_type_eq_ok_iff decoded).mp (agrees.added added parsed)).1 old
      · rw [← kept] at parsed
        exact ((message_type_eq_ok_iff decoded).mp (agrees.refused refusal parsed)).1 old
    · intro plain
      refine ⟨fun added parsed => ?_, fun refusal parsed => ?_⟩
      · rw [entryAdded, kept] at parsed
        have modern : revision ≠ .v1 := fun old => plain ⟨old, .inl ⟨added, parsed⟩⟩
        exact (message_type_eq_ok_iff decoded).mpr ⟨modern, EntryAdded.head_of_parse parsed⟩
      · rw [Response.refusal, kept] at parsed
        have modern : revision ≠ .v1 := fun old => plain ⟨old, .inr ⟨refusal, parsed⟩⟩
        exact (message_type_eq_ok_iff decoded).mpr ⟨modern, Refusal.head_of_parse parsed⟩

def confirmation : Response where
  revision := .v2
  value := 3
  chunk := [3, 255, 255, 255, 255, 255, 255, 255, 251, 0, 23, 6]

theorem confirmation_read_both_ways :
    decode .v2 confirmation.chunk = .ok confirmation ∧
      confirmation.messageType = .ok .entryAdded ∧ 11 ≤ confirmation.chunk.length ∧
      (∃ added, confirmation.entryAdded = .ok added) ∧ confirmation.Agrees := by
  have decoded : decode .v2 confirmation.chunk = .ok confirmation := by decide
  have typed : confirmation.messageType = .ok .entryAdded := by decide
  obtain ⟨confirmed, _, agrees⟩ := readings_agree_iff decoded
  refine ⟨decoded, typed, by decide, confirmed typed (by decide), agrees.mpr ?_⟩
  intro masquerades
  cases masquerades.1

/-- The number 2305 of revision 1 has no type and is read as a refusal. -/
theorem number_read_as_refusal :
    ∃ response, decode .v1 [9, 1] = .ok response ∧ response.value = 2305 ∧
      response.messageType = .error (.invalid "message type" 1) ∧
      response.refusal = .ok ⟨.actionNotImplemented⟩ :=
  ⟨⟨.v1, 2305, [9, 1]⟩, by decide, rfl, by decide, by decide⟩

end Response

end WatchLink
