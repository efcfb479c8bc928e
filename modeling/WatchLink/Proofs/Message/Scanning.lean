import WatchLink.Proofs.Message.Verdicts

/-!
# The notice of an expired entry, byte by byte

A notice holds a length that the server chooses, so a chunk has two boundaries: the end of the
header, and the end of the data that the header announces. `Judged` lists every verdict and the
chunks that get it, and says that reading never leaves the chunk. For the latter `parse` says too
little: it takes a field that is missing for a chunk that is too short. `scan` tells the two apart.
-/

namespace WatchLink

set_option autoImplicit false

namespace EntryExpired

/-- A chunk read as a notice by a cursor that moves over it. Each read takes its bytes from what the
reads before it have left; `none` is a read that would go past the end of the chunk. -/
def scan (chunk : Bytes) : ExceptT DecodeError Option EntryExpired :=
  if chunk.length < headerSize then throw (.tooShort headerSize chunk.length)
  else do
    let (kind, afterKind) ← Numeral.byte.read chunk
    if kind ≠ MessageType.entryExpired.byte then throw (.invalid "notification type" kind)
    else do
      let (timestamp, afterTimestamp) ← Numeral.signed.read afterKind
      let (id, afterId) ← Numeral.short.read afterTimestamp
      let (tag, afterTag) ← Numeral.long.read afterId
      let (length, afterHeader) ← Numeral.short.read afterTag
      if afterHeader.length < length.toNat then
        throw (.tooShort (headerSize + length.toNat) chunk.length)
      else do
        let (data, _) ← Reader.block length.toNat afterHeader
        return { timestamp, id, tag, data }

theorem lift_some_bind {Value Next : Type} (value : Value)
    (next : Value → ExceptT DecodeError Option Next) : (liftM (some value) >>= next) = next value :=
  rfl

theorem scan_of_short {chunk : Bytes} (short : chunk.length < headerSize) :
    (scan chunk).run = some (.error (.tooShort headerSize chunk.length)) :=
  congrArg ExceptT.run (if_pos short)

theorem scan_of_mistyped {first : UInt8} {payload : Bytes} (long : headerSize ≤ payload.length + 1)
    (other : first ≠ MessageType.entryExpired.byte) :
    (scan (first :: payload)).run = some (.error (.invalid "notification type" first)) := by
  have enough : ¬(first :: payload).length < headerSize := Nat.not_lt.mpr long
  unfold scan
  rw [if_neg enough, Numeral.read_byte_cons, lift_some_bind]
  exact congrArg ExceptT.run (if_pos other)

theorem scan_of_header (fixed : Header) (behind : Bytes) :
    (scan (MessageType.entryExpired.byte :: (fixed.bytes ++ behind))).run =
      if behind.length < fixed.length.toNat then
        some (.error (.tooShort (headerSize + fixed.length.toNat) (headerSize + behind.length)))
      else some (.ok ⟨fixed.timestamp, fixed.id, fixed.tag, behind.take fixed.length.toNat⟩) := by
  have counted := length_of_header MessageType.entryExpired.byte fixed behind
  have enough :
      ¬(MessageType.entryExpired.byte :: (fixed.bytes ++ behind)).length < headerSize := by
    omega
  unfold scan
  rw [if_neg enough, Numeral.read_byte_cons, counted]
  simp only [Header.bytes, List.append_assoc, lift_some_bind, Numeral.read_encode_append, ne_eq,
    not_true_eq_false, if_false]
  by_cases fewer : behind.length < fixed.length.toNat
  · rw [if_pos fewer, if_pos fewer]
    rfl
  · rw [if_neg fewer, if_neg fewer, Reader.block, if_neg fewer]
    rfl

theorem parse_of_header (fixed : Header) {behind : Bytes}
    (enough : fixed.length.toNat ≤ behind.length) :
    parse (MessageType.entryExpired.byte :: (fixed.bytes ++ behind)) =
      .ok ⟨fixed.timestamp, fixed.id, fixed.tag, behind.take fixed.length.toNat⟩ := by
  have counted : (behind.take fixed.length.toNat).length = fixed.length.toNat :=
    List.length_take_of_le enough
  have bounded := fixed.length.toNat_lt
  apply parse_eq_ok_iff.mpr
  refine ⟨?_, behind.drop fixed.length.toNat, ?_⟩
  · rw [counted, dataLimit]
    omega
  · simp only [bytes_append, counted, UInt16.ofNat_toNat, List.take_append_drop, Header.bytes,
      List.append_assoc]

/-- The cursor never asks for more than is left, and what it finds is what `parse` says. -/
theorem scan_run (chunk : Bytes) : (scan chunk).run = some (parse chunk) := by
  by_cases short : chunk.length < headerSize
  · rw [scan_of_short short, parse_eq_error_iff.mpr (.inl (.short short))]
  · have long := Nat.not_lt.mp short
    cases chunk with
    | nil => cases long
    | cons first payload =>
        by_cases same : first = MessageType.entryExpired.byte
        · subst same
          obtain ⟨fixed, behind, rfl⟩ := exists_eq_header_append long
          rw [scan_of_header]
          by_cases fewer : behind.length < fixed.length.toNat
          · rw [if_pos fewer, parse_eq_error_iff.mpr (.inr (.mk ⟨fixed, behind, rfl, rfl, fewer⟩)),
              length_of_header]
          · rw [if_neg fewer, parse_of_header fixed (Nat.not_lt.mp fewer)]
        · rw [scan_of_mistyped long same,
            parse_eq_error_iff.mpr (.inl (.mistyped first payload long same))]

def Heads (chunk : Bytes) (expired : EntryExpired) : Prop :=
  expired.data.length ≤ 65535 ∧
    ∃ rest, chunk = 6 :: Numeral.signed.encode expired.timestamp ++
      Numeral.short.encode expired.id ++ Numeral.long.encode expired.tag ++
        Numeral.short.encode (UInt16.ofNat expired.data.length) ++ expired.data ++ rest

structure Judged (chunk : Bytes) : Prop where
  accepted : ∀ expired, parse chunk = .ok expired ↔ Heads chunk expired
  unique : ∀ expired other, Heads chunk expired → Heads chunk other → expired = other
  /-- Whether a chunk is long enough is asked before anything else. -/
  headless : parse chunk = .error (.tooShort 21 chunk.length) ↔ chunk.length < 21
  mistyped : ∀ first, parse chunk = .error (.invalid "notification type" first) ↔
    21 ≤ chunk.length ∧ chunk.head? = some first ∧ first ≠ 6
  truncated : ∀ announced,
    21 ≤ chunk.length ∧ parse chunk = .error (.tooShort (21 + announced) chunk.length) ↔
      Lacks chunk announced
  /-- There is no other verdict. -/
  decided : (∃ expired, parse chunk = .ok expired) ∨
    parse chunk = .error (.tooShort 21 chunk.length) ∨
      (∃ first, parse chunk = .error (.invalid "notification type" first)) ∨
        ∃ announced, 21 ≤ chunk.length ∧
          parse chunk = .error (.tooShort (21 + announced) chunk.length)
  /-- The cursor comes through, so no read goes past the end. -/
  inBounds : (scan chunk).run = some (parse chunk)

theorem parse_eq_ok_iff_heads {chunk : Bytes} {expired : EntryExpired} :
    parse chunk = .ok expired ↔ Heads chunk expired := parse_eq_ok_iff

theorem parse_eq_headless_iff {chunk : Bytes} :
    parse chunk = .error (.tooShort 21 chunk.length) ↔ chunk.length < 21 := by
  constructor
  · intro refused
    rcases parse_eq_error_iff.mp refused with unopened | truncated
    · exact ((lasting_unopened _ _ _).counts unopened).2
    · exact (lasting_truncated.counts truncated).2
  · intro short
    exact parse_eq_error_iff.mpr (.inl (.short short))

theorem parse_eq_mistyped_iff {chunk : Bytes} {first : UInt8} :
    parse chunk = .error (.invalid "notification type" first) ↔
      21 ≤ chunk.length ∧ chunk.head? = some first ∧ first ≠ 6 := by
  constructor
  · intro refused
    rcases parse_eq_error_iff.mp refused with unopened | truncated
    · cases unopened with
      | mistyped _ payload long other => exact ⟨long, rfl, other⟩
    · cases truncated
  · rintro ⟨long, begins, other⟩
    obtain ⟨payload, rfl⟩ := List.head?_eq_some_iff.mp begins
    exact parse_eq_error_iff.mpr (.inl (.mistyped first payload long other))

theorem parse_eq_truncated_iff {chunk : Bytes} {announced : Nat} :
    21 ≤ chunk.length ∧ parse chunk = .error (.tooShort (21 + announced) chunk.length) ↔
      Lacks chunk announced := by
  constructor
  · rintro ⟨long, refused⟩
    generalize asked : 21 + announced = expected at refused
    rcases parse_eq_error_iff.mp refused with unopened | truncated
    · cases unopened with
      | short short => exact (Nat.not_lt.mpr long short).elim
    · cases truncated with
      | mk lacks =>
          obtain rfl := Nat.add_left_cancel asked
          exact lacks
  · intro lacks
    exact ⟨lacks.length_lt.1, parse_eq_error_iff.mpr (.inr (.mk lacks))⟩

theorem every_chunk_judged (chunk : Bytes) : Judged chunk where
  accepted _ := parse_eq_ok_iff_heads
  unique _ _ heads headsToo := by
    have parsed := parse_eq_ok_iff_heads.mpr heads
    rw [parse_eq_ok_iff_heads.mpr headsToo] at parsed
    exact (Except.ok.inj parsed).symm
  headless := parse_eq_headless_iff
  mistyped _ := parse_eq_mistyped_iff
  truncated _ := parse_eq_truncated_iff
  decided := by
    cases found : parse chunk with
    | ok expired => exact .inl ⟨expired, rfl⟩
    | error cause =>
        rcases parse_eq_error_iff.mp found with unopened | truncated
        · cases unopened with
          | short short => exact .inr (.inl rfl)
          | mistyped first payload long other => exact .inr (.inr (.inl ⟨first, rfl⟩))
        · cases truncated with
          | mk lacks => exact .inr (.inr (.inr ⟨_, lacks.length_lt.1, rfl⟩))
  inBounds := scan_run chunk

/-- A header that announces one byte of data asks for that byte. -/
example : parse [6, 0, 0, 0, 0, 0, 0, 0, 9, 0, 7, 0, 0, 0, 0, 0, 0, 0, 0, 0, 1] =
    .error (.tooShort 22 21) := by decide

end EntryExpired

end WatchLink
