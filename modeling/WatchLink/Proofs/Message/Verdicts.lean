import WatchLink.Proofs.Message.Reading

/-!
# Verdicts on a chunk that may still grow

A chunk is whatever one read took up, so the end of a message may still be missing. For each of the
three readers the refusals are listed here, as `parse_eq_ok_iff` lists what is accepted. A verdict
stays when more bytes come behind the chunk, and "too short" is true: there are as many bytes as it
says, and fewer than are needed. Hence asking for more comes to an end, `verdicts_steadfast`.
-/

namespace WatchLink

set_option autoImplicit false

/-! ## Why a chunk is refused -/

/-- A chunk is refused before its payload is looked at: there is too little of it, or its first byte
is not the type that is expected. Only a chunk that is long enough is asked for its type. -/
inductive Unopened (what : String) (kind : MessageType) (size : Nat) :
    Bytes → DecodeError → Prop where
  | short {chunk : Bytes} (short : chunk.length < size) :
      Unopened what kind size chunk (.tooShort size chunk.length)
  | mistyped (first : UInt8) (payload : Bytes) (long : size ≤ (first :: payload).length)
      (other : first ≠ kind.byte) :
      Unopened what kind size (first :: payload) (.invalid what first)

section Payload

variable {what : String} {kind : MessageType} {size : Nat} {chunk : Bytes} {cause : DecodeError}

theorem payload_of_eq_error_iff (positive : 0 < size) :
    payloadOf what kind size chunk = .error cause ↔ Unopened what kind size chunk cause := by
  constructor
  · intro refused
    unfold payloadOf at refused
    split at refused
    next short =>
      cases refused
      exact .short short
    next long =>
      cases chunk with
      | nil =>
          simp only [List.length_nil] at long
          omega
      | cons first payload =>
          by_cases same : first = kind.byte
          · simp [same] at refused
          · simp only [same, if_false, Except.error.injEq] at refused
            subst refused
            exact .mistyped first payload (Nat.not_lt.mp long) same
  · intro unopened
    cases unopened with
    | short short => exact if_pos short
    | mistyped first payload long other =>
        unfold payloadOf
        rw [if_neg (Nat.not_lt.mpr long)]
        exact if_neg other

theorem bind_payload_eq_error_iff {Value : Type} {content : Bytes → Except DecodeError Value}
    (positive : 0 < size) :
    (payloadOf what kind size chunk >>= content) = .error cause ↔
      Unopened what kind size chunk cause ∨
        ∃ payload, chunk = kind.byte :: payload ∧ size ≤ chunk.length ∧
          content payload = .error cause := by
  cases taken : payloadOf what kind size chunk with
  | error other =>
      have unopened := (payload_of_eq_error_iff positive).mp taken
      constructor
      · intro refused
        cases refused
        exact .inl unopened
      · rintro (refused | ⟨payload, begins, complete, _⟩)
        · rw [← taken, (payload_of_eq_error_iff positive).mpr refused]
          rfl
        · rw [payload_of_eq_ok_iff.mpr ⟨begins, complete⟩] at taken
          cases taken
  | ok payload =>
      obtain ⟨begins, complete⟩ := payload_of_eq_ok_iff.mp taken
      constructor
      · intro refused
        exact .inr ⟨payload, begins, complete, refused⟩
      · rintro (unopened | ⟨other, same, _, refused⟩)
        · rw [(payload_of_eq_error_iff positive).mpr unopened] at taken
          cases taken
        · rw [begins] at same
          cases same
          exact refused

end Payload

theorem RefusalCode.of_byte_eq_error_iff {value : UInt8} {cause : DecodeError} :
    RefusalCode.ofByte value = .error cause ↔
      (∀ code : RefusalCode, value ≠ code.byte) ∧ cause = .invalid "error code" value := by
  cases known : ofByte value with
  | ok code =>
      have same := of_byte_eq_ok_iff.mp known
      simp only [reduceCtorEq, false_iff]
      intro both
      exact both.1 code same
  | error other =>
      have unknown (code : RefusalCode) : value ≠ code.byte := by
        intro same
        rw [of_byte_eq_ok_iff.mpr same] at known
        cases known
      have cited : other = .invalid "error code" value := by
        unfold ofByte at known
        split at known
        · cases known
        · cases known
          rfl
      rw [cited]
      simp only [Except.error.injEq, unknown, ne_eq, not_false_eq_true, implies_true, true_and,
        eq_comm]

namespace EntryAdded

theorem exists_fields {payload : Bytes} (complete : size ≤ payload.length + 1) :
    ∃ added rest, fields payload = some (added, rest) := by
  have eight : Numeral.signed.width = 8 := rfl
  have two : Numeral.short.width = 2 := rfl
  simp only [size] at complete
  obtain ⟨timestamp, afterTimestamp, rfl⟩ :=
    Numeral.signed.exists_eq_encode_append payload (by omega)
  rw [List.length_append, Numeral.length_encode] at complete
  obtain ⟨id, rest, rfl⟩ := Numeral.short.exists_eq_encode_append afterTimestamp (by omega)
  exact ⟨⟨timestamp, id⟩, rest, fields_eq_some_iff.mpr (List.append_assoc _ _ _).symm⟩

/-- Behind the right type, every chunk that is long enough is a confirmation. -/
theorem parse_eq_error_iff {chunk : Bytes} {cause : DecodeError} :
    parse chunk = .error cause ↔ Unopened "reply type" .entryAdded size chunk cause := by
  rw [parse, bind_payload_eq_error_iff (by decide)]
  constructor
  · rintro (unopened | ⟨payload, rfl, complete, refused⟩)
    · exact unopened
    · obtain ⟨added, rest, whole⟩ := exists_fields complete
      rw [whole] at refused
      cases refused
  · exact .inl

end EntryAdded

namespace Refusal

inductive Unmeant : Bytes → DecodeError → Prop where
  | mk (code : UInt8) (rest : Bytes) (unknown : ∀ known : RefusalCode, code ≠ known.byte) :
      Unmeant (MessageType.error.byte :: code :: rest) (.invalid "error code" code)

theorem parse_eq_error_iff {chunk : Bytes} {cause : DecodeError} :
    parse chunk = .error cause ↔
      Unopened "reply type" .error size chunk cause ∨ Unmeant chunk cause := by
  rw [parse, bind_payload_eq_error_iff (by decide)]
  apply or_congr_right
  constructor
  · rintro ⟨payload, rfl, complete, refused⟩
    cases payload with
    | nil => simp [size] at complete
    | cons code rest =>
        cases meant : RefusalCode.ofByte code with
        | ok known =>
            simp only [Numeral.read_byte_cons, meant] at refused
            cases refused
        | error other =>
            simp only [Numeral.read_byte_cons, meant] at refused
            cases refused
            obtain ⟨unknown, rfl⟩ := RefusalCode.of_byte_eq_error_iff.mp meant
            exact .mk code rest unknown
  · rintro ⟨code, rest, unknown⟩
    refine ⟨code :: rest, rfl, by simp [size], ?_⟩
    have meant := RefusalCode.of_byte_eq_error_iff.mpr ⟨unknown, rfl⟩
    simp only [Numeral.read_byte_cons, meant]
    rfl

end Refusal

namespace EntryExpired

def Header.bytes (fixed : Header) : Bytes :=
  Numeral.signed.encode fixed.timestamp ++ Numeral.short.encode fixed.id ++
    Numeral.long.encode fixed.tag ++ Numeral.short.encode fixed.length

theorem length_of_header (kind : UInt8) (fixed : Header) (data : Bytes) :
    (kind :: (fixed.bytes ++ data)).length = headerSize + data.length := by
  simp only [Header.bytes, List.length_cons, List.length_append, Numeral.length_encode,
    Numeral.signed, Numeral.short, Numeral.long, headerSize]
  omega

theorem header_eq_some_iff_bytes {payload rest : Bytes} {found : Header} :
    header payload = some (found, rest) ↔ payload = found.bytes ++ rest := by
  rw [header_eq_some_iff]
  simp only [Header.bytes, List.append_assoc]

theorem exists_eq_header_append {payload : Bytes} (complete : headerSize ≤ payload.length + 1) :
    ∃ fixed data, payload = Header.bytes fixed ++ data := by
  have eight : Numeral.signed.width = 8 := rfl
  have two : Numeral.short.width = 2 := rfl
  have eightToo : Numeral.long.width = 8 := rfl
  simp only [headerSize] at complete
  obtain ⟨timestamp, afterTimestamp, rfl⟩ :=
    Numeral.signed.exists_eq_encode_append payload (by omega)
  rw [List.length_append, Numeral.length_encode] at complete
  obtain ⟨id, afterId, rfl⟩ :=
    Numeral.short.exists_eq_encode_append afterTimestamp (by omega)
  rw [List.length_append, Numeral.length_encode] at complete
  obtain ⟨tag, afterTag, rfl⟩ :=
    Numeral.long.exists_eq_encode_append afterId (by omega)
  rw [List.length_append, Numeral.length_encode] at complete
  obtain ⟨length, data, rfl⟩ :=
    Numeral.short.exists_eq_encode_append afterTag (by omega)
  exact ⟨⟨timestamp, id, tag, length⟩, data, by simp only [Header.bytes, List.append_assoc]⟩

/-- The chunk has a whole header, which announces this many bytes of data, and fewer follow. -/
def Lacks (chunk : Bytes) (announced : Nat) : Prop :=
  ∃ (fixed : Header) (data : Bytes),
    chunk = MessageType.entryExpired.byte :: (fixed.bytes ++ data) ∧
      fixed.length.toNat = announced ∧ data.length < announced

inductive Truncated (chunk : Bytes) : DecodeError → Prop where
  | mk {announced : Nat} (lacks : Lacks chunk announced) :
      Truncated chunk (.tooShort (headerSize + announced) chunk.length)

theorem parse_eq_error_iff {chunk : Bytes} {cause : DecodeError} :
    parse chunk = .error cause ↔
      Unopened "notification type" .entryExpired headerSize chunk cause ∨
        Truncated chunk cause := by
  rw [parse, bind_payload_eq_error_iff (by decide)]
  apply or_congr_right
  constructor
  · rintro ⟨payload, rfl, complete, refused⟩
    obtain ⟨fixed, data, rfl⟩ := exists_eq_header_append complete
    rw [header_eq_some_iff_bytes.mpr rfl] at refused
    simp only at refused
    split at refused
    next short =>
      cases refused
      exact .mk ⟨fixed, data, rfl, rfl, (Reader.block_eq_none_iff _ _).mp short⟩
    · cases refused
  · rintro ⟨fixed, data, rfl, rfl, fewer⟩
    have counted := length_of_header MessageType.entryExpired.byte fixed data
    refine ⟨fixed.bytes ++ data, rfl, by omega, ?_⟩
    rw [header_eq_some_iff_bytes.mpr rfl]
    simp only [(Reader.block_eq_none_iff _ _).mpr fewer]

end EntryExpired

/-! ## Chunks that grow -/

/-- What a reader says of a chunk, compared with what it says of the chunk and more behind it. -/
structure Steadfast {Value : Type} (read : Bytes → Except DecodeError Value) : Prop where
  accepts : ∀ chunk more value, read chunk = .ok value → read (chunk ++ more) = .ok value
  rejects : ∀ chunk more what byte, read chunk = .error (.invalid what byte) →
    read (chunk ++ more) = .error (.invalid what byte)
  counts : ∀ chunk expected actual, read chunk = .error (.tooShort expected actual) →
    actual = chunk.length ∧ chunk.length < expected
  waits : ∀ chunk more expected actual, read chunk = .error (.tooShort expected actual) →
    (chunk ++ more).length < expected →
      read (chunk ++ more) = .error (.tooShort expected (chunk ++ more).length)
  /-- Where the reader has got what it asked for, it asks for more than that if it asks at all. -/
  advances : ∀ chunk more expected actual further there,
    read chunk = .error (.tooShort expected actual) → expected ≤ (chunk ++ more).length →
      read (chunk ++ more) = .error (.tooShort further there) → expected < further

/-- What `Steadfast` asks of the failures alone. It is shown of each kind of failure by itself. -/
structure Lasting (Fails : Bytes → DecodeError → Prop) : Prop where
  rejects : ∀ {chunk what byte}, Fails chunk (.invalid what byte) →
    ∀ more, Fails (chunk ++ more) (.invalid what byte)
  counts : ∀ {chunk expected actual}, Fails chunk (.tooShort expected actual) →
    actual = chunk.length ∧ chunk.length < expected
  waits : ∀ {chunk expected actual}, Fails chunk (.tooShort expected actual) →
    ∀ more, (chunk ++ more).length < expected →
      Fails (chunk ++ more) (.tooShort expected (chunk ++ more).length)

namespace Lasting

variable {Fails Other : Bytes → DecodeError → Prop}

theorem or (lasting : Lasting Fails) (other : Lasting Other) :
    Lasting fun chunk cause => Fails chunk cause ∨ Other chunk cause where
  rejects failed more := failed.imp (lasting.rejects · more) (other.rejects · more)
  counts failed := failed.elim lasting.counts other.counts
  waits failed more still := failed.imp (lasting.waits · more still) (other.waits · more still)

/-- The need grows because it is truthful: the second time there is as much as was asked for the
first time, and still less than is needed. -/
theorem steadfast {Value : Type} {read : Bytes → Except DecodeError Value} (lasting : Lasting Fails)
    (refused : ∀ {chunk cause}, read chunk = .error cause ↔ Fails chunk cause)
    (accepts : ∀ chunk more value, read chunk = .ok value → read (chunk ++ more) = .ok value) :
    Steadfast read where
  accepts := accepts
  rejects _ more _ _ failed := refused.mpr (lasting.rejects (refused.mp failed) more)
  counts _ _ _ failed := lasting.counts (refused.mp failed)
  waits _ more _ _ failed still := refused.mpr (lasting.waits (refused.mp failed) more still)
  advances _ _ _ _ _ _ _ enough asked := by
    have fewer := (lasting.counts (refused.mp asked)).2
    omega

end Lasting

theorem lasting_unopened (what : String) (kind : MessageType) (size : Nat) :
    Lasting (Unopened what kind size) where
  rejects failed more := by
    cases failed with
    | mistyped _ payload long other =>
        have longer : size ≤ (payload ++ more).length + 1 := by
          rw [List.length_cons] at long
          rw [List.length_append]
          omega
        exact .mistyped _ (payload ++ more) longer other
  counts failed := by
    cases failed with
    | short short => exact ⟨rfl, short⟩
  waits failed more still := by
    cases failed with
    | short short => exact .short still

theorem Refusal.lasting_unmeant : Lasting Unmeant where
  rejects failed more := by
    cases failed with
    | mk _ rest unknown => exact .mk _ (rest ++ more) unknown
  counts failed := by cases failed
  waits failed := by cases failed

namespace EntryExpired

theorem Lacks.length_lt {chunk : Bytes} {announced : Nat} (lacks : Lacks chunk announced) :
    headerSize ≤ chunk.length ∧ chunk.length < headerSize + announced := by
  obtain ⟨fixed, data, rfl, rfl, fewer⟩ := lacks
  rw [length_of_header]
  omega

theorem Lacks.extend {chunk : Bytes} {announced : Nat} (lacks : Lacks chunk announced)
    {more : Bytes} (still : (chunk ++ more).length < headerSize + announced) :
    Lacks (chunk ++ more) announced := by
  obtain ⟨fixed, data, rfl, rfl, fewer⟩ := lacks
  rw [List.cons_append, List.append_assoc, length_of_header] at still
  refine ⟨fixed, data ++ more, ?_, rfl, by omega⟩
  rw [List.cons_append, List.append_assoc]

theorem lasting_truncated : Lasting Truncated where
  rejects failed := by cases failed
  counts failed := by
    cases failed with
    | mk lacks => exact ⟨rfl, lacks.length_lt.2⟩
  waits failed more still := by
    cases failed with
    | mk lacks => exact .mk (lacks.extend still)

end EntryExpired

theorem EntryAdded.steadfast_parse : Steadfast parse := by
  apply (lasting_unopened _ _ _).steadfast parse_eq_error_iff
  intro chunk more added parsed
  obtain ⟨rest, rfl⟩ := parse_eq_ok_iff.mp parsed
  exact parse_eq_ok_iff.mpr ⟨rest ++ more, List.append_assoc _ _ _⟩

theorem Refusal.steadfast_parse : Steadfast parse := by
  apply ((lasting_unopened _ _ _).or lasting_unmeant).steadfast parse_eq_error_iff
  intro chunk more refusal parsed
  obtain ⟨rest, rfl⟩ := parse_eq_ok_iff.mp parsed
  exact parse_eq_ok_iff.mpr ⟨rest ++ more, List.append_assoc _ _ _⟩

theorem EntryExpired.steadfast_parse : Steadfast parse := by
  apply ((lasting_unopened _ _ _).or lasting_truncated).steadfast parse_eq_error_iff
  intro chunk more expired parsed
  obtain ⟨fits, rest, rfl⟩ := parse_eq_ok_iff.mp parsed
  exact parse_eq_ok_iff.mpr ⟨fits, rest ++ more, List.append_assoc _ _ _⟩

/-! ## One reader for each type -/

theorem EntryAdded.head_of_parse {chunk : Bytes} {added : EntryAdded}
    (parsed : parse chunk = .ok added) : chunk.head? = some MessageType.entryAdded.byte := by
  obtain ⟨rest, rfl⟩ := parse_eq_ok_iff.mp parsed
  rfl

theorem Refusal.head_of_parse {chunk : Bytes} {refusal : Refusal}
    (parsed : parse chunk = .ok refusal) : chunk.head? = some MessageType.error.byte := by
  obtain ⟨rest, rfl⟩ := parse_eq_ok_iff.mp parsed
  rfl

theorem EntryExpired.head_of_parse {chunk : Bytes} {expired : EntryExpired}
    (parsed : parse chunk = .ok expired) :
    chunk.head? = some MessageType.entryExpired.byte := by
  obtain ⟨_, rest, rfl⟩ := parse_eq_ok_iff.mp parsed
  rfl

/-- What a reader has decided stays decided, whatever comes behind the chunk. A chunk that is too
short is told so truly, and told a greater need each time that a need was met. No chunk is read as
two kinds of message. -/
theorem verdicts_steadfast :
    Steadfast EntryExpired.parse ∧ Steadfast EntryAdded.parse ∧ Steadfast Refusal.parse ∧
      ∀ chunk,
        (∀ expired added,
          ¬(EntryExpired.parse chunk = .ok expired ∧ EntryAdded.parse chunk = .ok added)) ∧
        (∀ expired refusal,
          ¬(EntryExpired.parse chunk = .ok expired ∧ Refusal.parse chunk = .ok refusal)) ∧
        ∀ added refusal,
          ¬(EntryAdded.parse chunk = .ok added ∧ Refusal.parse chunk = .ok refusal) := by
  refine ⟨EntryExpired.steadfast_parse, EntryAdded.steadfast_parse, Refusal.steadfast_parse, ?_⟩
  intro chunk
  refine ⟨?_, ?_, ?_⟩
  · rintro expired added ⟨notice, confirmation⟩
    have notices := EntryExpired.head_of_parse notice
    rw [EntryAdded.head_of_parse confirmation] at notices
    cases notices
  · rintro expired refusal ⟨notice, refused⟩
    have notices := EntryExpired.head_of_parse notice
    rw [Refusal.head_of_parse refused] at notices
    cases notices
  · rintro added refusal ⟨confirmation, refused⟩
    have confirms := EntryAdded.head_of_parse confirmation
    rw [Refusal.head_of_parse refused] at confirms
    cases confirms

end WatchLink
