import WatchLink.Message.Writing
import WatchLink.Proofs.Wire.Digits

/-!
# Reading what the server wrote

A reader takes a chunk for a message just where the chunk begins with the bytes of that message, and
then for that message and no other. What follows the message is ignored, and a chunk that holds only
a part of a message is refused.
-/

namespace WatchLink

set_option autoImplicit false

theorem payload_of_eq_ok_iff {what : String} {kind : MessageType} {size : Nat}
    {chunk payload : Bytes} :
    payloadOf what kind size chunk = .ok payload ↔
      chunk = kind.byte :: payload ∧ size ≤ chunk.length := by
  unfold payloadOf
  split
  next short =>
    constructor
    · intro taken
      cases taken
    · rintro ⟨_, long⟩
      omega
  next long =>
    cases chunk with
    | nil => simp
    | cons first rest =>
        have complete := Nat.not_lt.mp long
        by_cases same : first = kind.byte
        · simp only [same, if_true, Except.ok.injEq, List.cons.injEq, true_and]
          exact ⟨fun payload => ⟨payload, complete⟩, And.left⟩
        · simp [same]

theorem bind_payload_eq_ok_iff {Value : Type} {what : String} {kind : MessageType} {size : Nat}
    {chunk : Bytes} {content : Bytes → Except DecodeError Value} {value : Value} :
    (payloadOf what kind size chunk >>= content) = .ok value ↔
      ∃ payload, chunk = kind.byte :: payload ∧ size ≤ chunk.length ∧
        content payload = .ok value := by
  constructor
  · intro parsed
    cases taken : payloadOf what kind size chunk with
    | error cause =>
        rw [taken] at parsed
        cases parsed
    | ok payload =>
        rw [taken] at parsed
        obtain ⟨begins, complete⟩ := payload_of_eq_ok_iff.mp taken
        exact ⟨payload, begins, complete, parsed⟩
  · rintro ⟨payload, begins, complete, parsed⟩
    rw [payload_of_eq_ok_iff.mpr ⟨begins, complete⟩]
    exact parsed

/-- In a table that holds each kind under a byte of its own, a byte finds the kind that it is the
byte of. -/
theorem find_byte_eq_some_iff {Kind : Type} {byte : Kind → UInt8} {table : List Kind}
    (listed : ∀ kind, table.find? (fun other => byte other == byte kind) = some kind)
    {value : UInt8} {kind : Kind} :
    table.find? (fun other => byte other == value) = some kind ↔ value = byte kind := by
  constructor
  · intro present
    have same := List.find?_some present
    exact (beq_iff_eq.mp same).symm
  · rintro rfl
    exact listed kind

theorem MessageType.of_byte_eq_ok_iff {value : UInt8} {kind : MessageType} :
    ofByte value = .ok kind ↔ value = kind.byte := by
  have listed (kind : MessageType) :
      every.find? (fun other => other.byte == kind.byte) = some kind := by cases kind <;> rfl
  rw [← find_byte_eq_some_iff listed]
  unfold ofByte
  split
  next found present => simp only [present, Except.ok.injEq, Option.some.injEq]
  next missing => simp only [missing, reduceCtorEq]

namespace RefusalCode

theorem of_byte_eq_ok_iff {value : UInt8} {code : RefusalCode} :
    ofByte value = .ok code ↔ value = code.byte := by
  have listed (code : RefusalCode) :
      every.find? (fun other => other.byte == code.byte) = some code := by cases code <;> rfl
  rw [← find_byte_eq_some_iff listed]
  unfold ofByte
  split
  next found present => simp only [present, Except.ok.injEq, Option.some.injEq]
  next missing => simp only [missing, reduceCtorEq]

end RefusalCode

namespace EntryAdded

theorem length_bytes (added : EntryAdded) : added.bytes.length = size := by
  simp [bytes, size, Numeral.signed, Numeral.short]

theorem fields_eq_some_iff {payload rest : Bytes} {added : EntryAdded} :
    fields payload = some (added, rest) ↔
      payload = Numeral.signed.encode added.timestamp ++ Numeral.short.encode added.id ++ rest := by
  simp only [fields, Option.bind_eq_bind, Option.bind_eq_some_iff, Prod.exists, Option.some.injEq,
    Prod.mk.injEq]
  constructor
  · rintro ⟨timestamp, _, moment, id, behind, named, rfl, rfl⟩
    rw [(Numeral.read_eq_some_iff _ _ _ _).mp moment,
      (Numeral.read_eq_some_iff _ _ _ _).mp named, List.append_assoc]
  · rintro rfl
    rw [List.append_assoc]
    exact ⟨_, _, Numeral.read_encode_append _ _ _, _, _, Numeral.read_encode_append _ _ _, rfl, rfl⟩

theorem parse_eq_ok_iff {chunk : Bytes} {added : EntryAdded} :
    parse chunk = .ok added ↔ ∃ rest, chunk = added.bytes ++ rest := by
  constructor
  · intro parsed
    obtain ⟨payload, rfl, _, content⟩ := bind_payload_eq_ok_iff.mp parsed
    split at content
    next found rest complete =>
      cases content
      exact ⟨rest, by rw [fields_eq_some_iff.mp complete]; rfl⟩
    · cases content
  · rintro ⟨rest, rfl⟩
    have complete : fields (Numeral.signed.encode added.timestamp ++
        Numeral.short.encode added.id ++ rest) = some (added, rest) :=
      fields_eq_some_iff.mpr rfl
    refine bind_payload_eq_ok_iff.mpr ⟨Numeral.signed.encode added.timestamp ++
      Numeral.short.encode added.id ++ rest, rfl, ?_, by rw [complete]⟩
    rw [List.length_append, length_bytes]
    omega

end EntryAdded

namespace Refusal

theorem parse_eq_ok_iff {chunk : Bytes} {refusal : Refusal} :
    parse chunk = .ok refusal ↔ ∃ rest, chunk = refusal.bytes ++ rest := by
  constructor
  · intro parsed
    obtain ⟨payload, rfl, _, content⟩ := bind_payload_eq_ok_iff.mp parsed
    split at content
    next code rest taken =>
      obtain rfl := (Numeral.read_eq_some_iff _ _ _ _).mp taken
      cases known : RefusalCode.ofByte code with
      | error cause =>
          rw [known] at content
          cases content
      | ok meant =>
          rw [known] at content
          cases content
          refine ⟨rest, ?_⟩
          rw [RefusalCode.of_byte_eq_ok_iff.mp known, Numeral.encode_byte]
          rfl
    · cases content
  · rintro ⟨rest, rfl⟩
    have known : RefusalCode.ofByte refusal.code.byte = .ok refusal.code :=
      RefusalCode.of_byte_eq_ok_iff.mpr rfl
    refine bind_payload_eq_ok_iff.mpr ⟨refusal.code.byte :: rest, rfl, by simp [bytes, size], ?_⟩
    simp only [Numeral.read_byte_cons, known, bind, Except.bind, pure, Except.pure]

end Refusal

namespace EntryExpired

theorem header_eq_some_iff {payload rest : Bytes} {found : Header} :
    header payload = some (found, rest) ↔
      payload = Numeral.signed.encode found.timestamp ++ (Numeral.short.encode found.id ++
        (Numeral.long.encode found.tag ++ (Numeral.short.encode found.length ++ rest))) := by
  simp only [header, Option.bind_eq_bind, Option.bind_eq_some_iff, Prod.exists, Option.some.injEq,
    Prod.mk.injEq]
  constructor
  · rintro ⟨timestamp, _, moment, id, _, named, tag, _, labelled, length, _, counted, rfl, rfl⟩
    rw [(Numeral.read_eq_some_iff _ _ _ _).mp moment, (Numeral.read_eq_some_iff _ _ _ _).mp named,
      (Numeral.read_eq_some_iff _ _ _ _).mp labelled,
      (Numeral.read_eq_some_iff _ _ _ _).mp counted]
  · rintro rfl
    exact ⟨_, _, Numeral.read_encode_append _ _ _, _, _, Numeral.read_encode_append _ _ _, _, _,
      Numeral.read_encode_append _ _ _, _, _, Numeral.read_encode_append _ _ _, rfl, rfl⟩

theorem bytes_append (expired : EntryExpired) (rest : Bytes) :
    expired.bytes ++ rest = MessageType.entryExpired.byte ::
      (Numeral.signed.encode expired.timestamp ++ (Numeral.short.encode expired.id ++
        (Numeral.long.encode expired.tag ++
          (Numeral.short.encode (UInt16.ofNat expired.data.length) ++
            (expired.data ++ rest))))) := by
  simp only [bytes, List.cons_append, List.append_assoc]

theorem length_bytes (expired : EntryExpired) :
    expired.bytes.length = headerSize + expired.data.length := by
  simp only [bytes, List.length_cons, List.length_append, Numeral.length_encode, headerSize,
    Numeral.signed, Numeral.short, Numeral.long]

/-- A chunk is taken for a notice just where it begins with that notice. -/
theorem parse_eq_ok_iff {chunk : Bytes} {expired : EntryExpired} :
    parse chunk = .ok expired ↔
      expired.data.length ≤ dataLimit ∧ ∃ rest, chunk = expired.bytes ++ rest := by
  constructor
  · intro parsed
    obtain ⟨payload, rfl, _, content⟩ := bind_payload_eq_ok_iff.mp parsed
    split at content
    · cases content
    next found afterHeader complete =>
      split at content
      · cases content
      next data rest taken =>
        obtain ⟨counts, rfl⟩ := (Reader.block_eq_some_iff _ _ _ _).mp taken
        cases content
        have announced : UInt16.ofNat data.length = found.length := by
          rw [counts, UInt16.ofNat_toNat]
        have bounded := found.length.toNat_lt
        refine ⟨?_, rest, ?_⟩
        · simp only [dataLimit]
          omega
        · rw [bytes_append, header_eq_some_iff.mp complete, announced]
  · rintro ⟨fits, rest, rfl⟩
    have counts : (UInt16.ofNat expired.data.length).toNat = expired.data.length := by
      apply UInt16.toNat_ofNat_of_lt'
      exact Nat.lt_succ_of_le fits
    refine bind_payload_eq_ok_iff.mpr ⟨_, bytes_append expired rest, ?_, ?_⟩
    · rw [List.length_append, length_bytes]
      omega
    · have block := Reader.block_append expired.data rest
      have complete : header (Numeral.signed.encode expired.timestamp ++
          (Numeral.short.encode expired.id ++ (Numeral.long.encode expired.tag ++
            (Numeral.short.encode (UInt16.ofNat expired.data.length) ++
              (expired.data ++ rest))))) =
          some (⟨expired.timestamp, expired.id, expired.tag, UInt16.ofNat expired.data.length⟩,
            expired.data ++ rest) :=
        header_eq_some_iff.mpr rfl
      rw [complete]
      simp only [counts, block]

end EntryExpired

end WatchLink
