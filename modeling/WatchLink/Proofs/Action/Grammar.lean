import WatchLink.Proofs.Action.Streams
import WatchLink.Proofs.Wire.Digits

/-!
# The grammar of one message

`Grammar` lists, byte by byte, what each revision documents as an action. `decode` accepts exactly
these byte strings, and on them it is the inverse of `encode`: `decode_eq_some_iff` says that a byte
string is read as an action just where it is the message of that action and the action holds no tag
that is not sent. Nothing is read as two actions, although two operation codes are the same number
and the tag of a watch mode is not announced.
-/

namespace WatchLink

set_option autoImplicit false

namespace Action

/-- The byte strings that a revision documents as one action. -/
inductive Grammar : Revision → Bytes → Prop where
  | shortPing : Grammar .v1 [0, 0]
  | shortClose : Grammar .v1 [0, 2]
  | ping {revision : Revision} (modern : revision ≠ .v1) : Grammar revision [0]
  /-- The length counts the bytes of the data, no more and no fewer. -/
  | addEntry {revision : Revision} (modern : revision ≠ .v1) (timestamp length data : Bytes)
      (eight : timestamp.length = 8) (two : length.length = 2)
      (counts : BigEndian.value length = data.length) :
      Grammar revision (2 :: timestamp ++ length ++ data)
  | removeEntry {revision : Revision} (modern : revision ≠ .v1) (timestamp id : Bytes)
      (eight : timestamp.length = 8) (two : id.length = 2) :
      Grammar revision (4 :: timestamp ++ id)
  | setWatchMode {revision : Revision} (mode : WatchMode) (byte : UInt8)
      (known : revision.watchModeByte mode = some byte) : Grammar revision [7, byte]
  | tagged (tag : Bytes) (eight : tag.length = 8) : Grammar .v2 (7 :: 2 :: tag)

/-! ## The bytes of a message -/

section Messages

variable {revision : Revision}

theorem encode_ping (modern : revision ≠ .v1) : ping.encode revision = .ok [0] := by
  rw [encode, opcode_bytes_of_ne modern]
  rfl

theorem encode_add_entry (modern : revision ≠ .v1) (timestamp : Int64) {data : Bytes}
    (fits : ¬dataLimit < data.length) :
    (addEntry timestamp data).encode revision =
      .ok (2 :: Numeral.signed.encode timestamp ++
        Numeral.short.encode (UInt16.ofNat data.length) ++ data) := by
  cases revision with
  | v1 => exact (modern rfl).elim
  | v2 | v3 =>
      simp only [encode, Revision.supportsEntries, if_neg fits]
      rfl

theorem encode_remove_entry (modern : revision ≠ .v1) (timestamp : Int64) (id : UInt16) :
    (removeEntry timestamp id).encode revision =
      .ok (4 :: Numeral.signed.encode timestamp ++ Numeral.short.encode id) := by
  cases revision with
  | v1 => exact (modern rfl).elim
  | v2 | v3 => rfl

theorem encode_set_watch_mode {mode : WatchMode} {byte : UInt8}
    (known : revision.watchModeByte mode = some byte) (tag : Option UInt64) :
    (setWatchMode mode tag).encode revision =
      .ok (7 :: byte :: (setWatchMode mode tag).tagBytes revision) := by
  cases revision with
  | v1 => cases known
  | v2 | v3 =>
      simp only [encode, known, Numeral.encode_byte]
      rfl

end Messages

/-! ## What is read was said -/

section Reading

variable {revision : Revision} {bytes rest : Bytes} {action : Action}

theorem watch_mode_byte_of_watch_mode {byte : UInt8} {mode : WatchMode}
    (known : revision.watchModeOf byte = some mode) : revision.watchModeByte mode = some byte := by
  unfold Revision.watchModeOf at known
  split at known
  all_goals cases known
  all_goals rfl

theorem said_of_read_short (found : readShort bytes = some (action, rest)) :
    ∃ front, action.encode .v1 = .ok front ∧ bytes = front ++ rest := by
  simp only [readShort, Option.bind_eq_bind, Option.bind_eq_some_iff, Prod.exists] at found
  obtain ⟨code, behind, taken, chosen⟩ := found
  obtain rfl := (Numeral.read_eq_some_iff _ _ _ _).mp taken
  split at chosen
  next zero =>
    subst zero
    cases chosen
    exact ⟨_, rfl, rfl⟩
  · split at chosen
    next two =>
      subst two
      cases chosen
      exact ⟨_, rfl, rfl⟩
    · cases chosen

theorem said_of_read_add_entry (modern : revision ≠ .v1)
    (found : readAddEntry bytes = some (action, rest)) :
    ∃ front, action.encode revision = .ok front ∧ 2 :: bytes = front ++ rest := by
  simp only [readAddEntry, Option.bind_eq_bind, Option.bind_eq_some_iff, Prod.exists,
    Option.some.injEq, Prod.mk.injEq] at found
  obtain ⟨timestamp, _, moment, length, _, counted, data, behind, taken, rfl, rfl⟩ := found
  obtain rfl := (Numeral.read_eq_some_iff _ _ _ _).mp moment
  obtain rfl := (Numeral.read_eq_some_iff _ _ _ _).mp counted
  obtain ⟨counts, rfl⟩ := (Reader.block_eq_some_iff _ _ _ _).mp taken
  have fits : ¬dataLimit < data.length := by
    have bounded := length.toNat_lt
    rw [dataLimit]
    omega
  refine ⟨_, encode_add_entry modern timestamp fits, ?_⟩
  rw [counts, UInt16.ofNat_toNat]
  simp only [List.cons_append, List.append_assoc]

theorem said_of_read_remove_entry (modern : revision ≠ .v1)
    (found : readRemoveEntry bytes = some (action, rest)) :
    ∃ front, action.encode revision = .ok front ∧ 4 :: bytes = front ++ rest := by
  simp only [readRemoveEntry, Option.bind_eq_bind, Option.bind_eq_some_iff, Prod.exists,
    Option.some.injEq, Prod.mk.injEq] at found
  obtain ⟨timestamp, _, moment, id, behind, named, rfl, rfl⟩ := found
  obtain rfl := (Numeral.read_eq_some_iff _ _ _ _).mp moment
  obtain rfl := (Numeral.read_eq_some_iff _ _ _ _).mp named
  refine ⟨_, encode_remove_entry modern timestamp id, ?_⟩
  simp only [List.cons_append, List.append_assoc]

theorem said_of_read_set_watch_mode {follows : TagFollows}
    (found : readSetWatchMode revision follows bytes = some (action, rest)) :
    ∃ front, action.encode revision = .ok front ∧ 7 :: bytes = front ++ rest := by
  simp only [readSetWatchMode, Option.bind_eq_bind, Option.bind_eq_some_iff, Prod.exists] at found
  obtain ⟨byte, behind, taken, mode, named, chosen⟩ := found
  obtain rfl := (Numeral.read_eq_some_iff _ _ _ _).mp taken
  have known := watch_mode_byte_of_watch_mode named
  cases follows with
  | no =>
      cases chosen
      exact ⟨_, encode_set_watch_mode known none, by simp [Numeral.encode_byte, tagBytes, sentTag]⟩
  | yes =>
      simp only at chosen
      split at chosen
      next tags =>
        simp only [Option.bind_eq_some_iff, Prod.exists, Option.some.injEq, Prod.mk.injEq]
          at chosen
        obtain ⟨tag, _, labelled, rfl, rfl⟩ := chosen
        obtain rfl := (Numeral.read_eq_some_iff _ _ _ _).mp labelled
        refine ⟨_, encode_set_watch_mode known (some tag), ?_⟩
        simp [Numeral.encode_byte, tagBytes, sentTag, tags]
      · cases chosen

/-- What is read from the front of a byte string is an action whose message stands there. -/
theorem said_of_read {follows : TagFollows}
    (found : read revision follows bytes = some (action, rest)) :
    ∃ front, action.encode revision = .ok front ∧ bytes = front ++ rest := by
  by_cases old : revision = .v1
  · subst old
    exact said_of_read_short found
  · have opened : ∃ code content, bytes = code :: content ∧
        (if code = 0 then some (ping, content)
          else if code = 2 then readAddEntry content
          else if code = 4 then readRemoveEntry content
          else if code = 7 then readSetWatchMode revision follows content
          else none) = some (action, rest) := by
      cases revision with
      | v1 => exact (old rfl).elim
      | v2 | v3 =>
          simp only [read, Option.bind_eq_bind, Option.bind_eq_some_iff, Prod.exists] at found
          obtain ⟨code, content, taken, chosen⟩ := found
          refine ⟨code, content, ?_, chosen⟩
          rw [(Numeral.read_eq_some_iff _ _ _ _).mp taken, Numeral.encode_byte]
          rfl
    obtain ⟨code, content, rfl, chosen⟩ := opened
    split at chosen
    next zero =>
      cases chosen
      exact ⟨[0], encode_ping old, by rw [zero]; rfl⟩
    · split at chosen
      next two =>
        rw [two]
        exact said_of_read_add_entry old chosen
      · split at chosen
        next four =>
          rw [four]
          exact said_of_read_remove_entry old chosen
        · split at chosen
          next seven =>
            rw [seven]
            exact said_of_read_set_watch_mode chosen
          · cases chosen

theorem encode_of_decode (found : decode revision bytes = some action) :
    action.encode revision = .ok bytes := by
  have whole (follows : TagFollows) (read : read revision follows bytes = some (action, [])) :
      action.encode revision = .ok bytes := by
    obtain ⟨front, said, rfl⟩ := said_of_read read
    rw [said, List.append_nil]
  unfold decode at found
  split at found
  next alone =>
    cases found
    exact whole .no alone
  · split at found
    next labelled =>
      cases found
      exact whole .yes labelled
    · cases found

end Reading

/-! ## What was said is read -/

section Saying

variable {revision : Revision} {bytes : Bytes} {action : Action}

theorem untagged_of_tag_bytes_eq_nil (silent : action.tagBytes revision = []) :
    action.untagged = action.asSent revision := by
  cases action with
  | setWatchMode mode tag =>
      cases sends : sentTag revision mode tag with
      | none => rw [asSent, sends, untagged]
      | some number =>
          have eight := Numeral.length_encode Numeral.long number
          simp [tagBytes, sends] at silent
          rw [silent] at eight
          cases eight
  | _ => rfl

theorem read_tagged (tag : UInt64)
    (said : (setWatchMode .tagged (some tag)).encode .v2 = .ok bytes) :
    read .v2 .yes bytes = some (setWatchMode .tagged (some tag), []) := by
  cases said
  have label := Numeral.read_encode_append Numeral.long tag []
  rw [List.append_nil] at label
  have mode : Numeral.byte.read (2 :: Numeral.long.encode tag) =
      some (2, Numeral.long.encode tag) := rfl
  change readSetWatchMode .v2 .yes (2 :: Numeral.long.encode tag) = _
  simp only [readSetWatchMode, mode, Option.bind_eq_bind, Option.bind_some, Revision.watchModeOf,
    Revision.supportsTags, and_self, if_true, label]

theorem decode_of_encode (said : action.encode revision = .ok bytes) :
    decode revision bytes = some (action.asSent revision) := by
  have found := read_message said []
  rw [List.append_nil, List.append_nil] at found
  cases left : action.tagBytes revision with
  | nil =>
      rw [left] at found
      rw [decode, found, untagged_of_tag_bytes_eq_nil left]
  | cons first others =>
      cases action with
      | setWatchMode mode tag =>
          cases sends : sentTag revision mode tag with
          | none => simp [tagBytes, sends] at left
          | some number =>
              obtain ⟨rfl, rfl, rfl⟩ := sent_tag_eq_some sends
              rw [left] at found
              rw [decode, found, read_tagged number said]
              rfl
      | _ => cases left

/-- A byte string is read as an action just where it is the message of that action and the action
holds no tag beyond what is sent. -/
theorem decode_eq_some_iff :
    decode revision bytes = some action ↔
      action.encode revision = .ok bytes ∧ action.asSent revision = action := by
  constructor
  · intro found
    have said := encode_of_decode found
    refine ⟨said, ?_⟩
    apply Option.some.inj
    rw [← decode_of_encode said, found]
  · rintro ⟨said, bare⟩
    rw [decode_of_encode said, bare]

end Saying

/-! ## What can be said -/

section Image

variable {revision : Revision} {bytes : Bytes}

theorem modern_of_supports_entries (entries : revision.supportsEntries = true) :
    revision ≠ .v1 := by
  rintro rfl
  cases entries

theorem grammar_of_add_entry {timestamp : Int64} {data : Bytes}
    (said : (addEntry timestamp data).encode revision = .ok bytes) : Grammar revision bytes := by
  cases entries : revision.supportsEntries with
  | false => simp [encode, entries] at said
  | true =>
      have modern := modern_of_supports_entries entries
      by_cases long : dataLimit < data.length
      · simp [encode, entries, long] at said
      · rw [encode_add_entry modern timestamp long] at said
        cases said
        refine .addEntry modern _ _ data (Numeral.length_encode _ _) (Numeral.length_encode _ _) ?_
        rw [Numeral.value_encode]
        apply UInt16.toNat_ofNat_of_lt'
        exact Nat.lt_succ_of_le (Nat.le_of_not_lt long)

theorem grammar_of_remove_entry {timestamp : Int64} {id : UInt16}
    (said : (removeEntry timestamp id).encode revision = .ok bytes) : Grammar revision bytes := by
  cases entries : revision.supportsEntries with
  | false => simp [encode, entries] at said
  | true =>
      have modern := modern_of_supports_entries entries
      rw [encode_remove_entry modern] at said
      cases said
      exact .removeEntry modern _ _ (Numeral.length_encode _ _) (Numeral.length_encode _ _)

theorem grammar_of_set_watch_mode {mode : WatchMode} {tag : Option UInt64}
    (said : (setWatchMode mode tag).encode revision = .ok bytes) : Grammar revision bytes := by
  cases known : revision.watchModeByte mode with
  | none =>
      simp only [encode, known] at said
      split at said
      all_goals cases said
  | some byte =>
      rw [encode_set_watch_mode known] at said
      cases said
      cases sends : sentTag revision mode tag with
      | none =>
          simp only [tagBytes, sends]
          exact .setWatchMode mode byte known
      | some number =>
          obtain ⟨rfl, rfl, rfl⟩ := sent_tag_eq_some sends
          cases known
          exact .tagged _ (Numeral.length_encode _ _)

theorem grammar_of_encode {action : Action} (said : action.encode revision = .ok bytes) :
    Grammar revision bytes := by
  cases action with
  | ping =>
      cases said
      cases revision with
      | v1 => exact .shortPing
      | v2 | v3 => exact .ping (by decide)
  | close =>
      cases revision with
      | v1 =>
          cases said
          exact .shortClose
      | v2 | v3 => cases said
  | addEntry => exact grammar_of_add_entry said
  | removeEntry => exact grammar_of_remove_entry said
  | setWatchMode => exact grammar_of_set_watch_mode said

theorem said_of_grammar (grammar : Grammar revision bytes) :
    ∃ action : Action, action.encode revision = .ok bytes := by
  cases grammar with
  | shortPing => exact ⟨.ping, rfl⟩
  | shortClose => exact ⟨.close, rfl⟩
  | ping modern => exact ⟨.ping, encode_ping modern⟩
  | addEntry modern timestamp length data eight two counts =>
      have bounded := BigEndian.value_lt_capacity length
      have announced : Numeral.short.encode (UInt16.ofNat data.length) = length := by
        rw [← counts]
        exact Numeral.encode_of_length Numeral.short length two
      have fits : ¬dataLimit < data.length := by
        rw [two, counts] at bounded
        exact Nat.not_lt.mpr (Nat.le_of_lt_succ bounded)
      have said := encode_add_entry modern (Numeral.signed.ofNat (BigEndian.value timestamp)) fits
      rw [Numeral.encode_of_length Numeral.signed timestamp eight, announced] at said
      exact ⟨_, said⟩
  | removeEntry modern timestamp id eight two =>
      have said := encode_remove_entry modern (Numeral.signed.ofNat (BigEndian.value timestamp))
        (Numeral.short.ofNat (BigEndian.value id))
      rw [Numeral.encode_of_length Numeral.signed timestamp eight,
        Numeral.encode_of_length Numeral.short id two] at said
      exact ⟨_, said⟩
  | setWatchMode mode byte known =>
      have said := encode_set_watch_mode known none
      have silent : sentTag revision mode none = none := by simp [sentTag]
      simp only [tagBytes, silent] at said
      exact ⟨_, said⟩
  | tagged tag eight =>
      have known : Revision.watchModeByte .v2 .tagged = some 2 := rfl
      have said := encode_set_watch_mode known (some (Numeral.long.ofNat (BigEndian.value tag)))
      simp only [tagBytes, sent_tag_of_v2, Option.map_some, Option.getD_some] at said
      rw [Numeral.encode_of_length Numeral.long tag eight] at said
      exact ⟨_, said⟩

/-- Reading and saying are inverse to each other, up to a tag that is not sent. What can be read is
what the revision documents, and two actions have one message just where they say the same. -/
theorem decode_inverts_encode (revision : Revision) :
    (∀ action bytes, encode revision action = .ok bytes →
        decode revision bytes = some (action.asSent revision)) ∧
      (∀ bytes action, decode revision bytes = some action →
        encode revision action = .ok bytes) ∧
      (∀ bytes, (decode revision bytes).isSome ↔ Grammar revision bytes) ∧
      ∀ first second front back, encode revision first = .ok front →
        encode revision second = .ok back →
          (front = back ↔ first.asSent revision = second.asSent revision) := by
  refine ⟨fun _ _ => decode_of_encode, fun _ _ => encode_of_decode, fun bytes => ?_, ?_⟩
  · constructor
    · intro accepted
      obtain ⟨action, found⟩ := Option.isSome_iff_exists.mp accepted
      exact grammar_of_encode (encode_of_decode found)
    · intro grammar
      obtain ⟨action, said⟩ := said_of_grammar grammar
      rw [decode_of_encode said]
      rfl
  · intro first second front back said saidToo
    constructor
    · rintro rfl
      apply Option.some.inj
      rw [← decode_of_encode said, decode_of_encode saidToo]
    · intro alike
      apply Except.ok.inj
      rw [← said, ← saidToo, ← encode_as_sent revision first, alike, encode_as_sent]

/-- A tag is read back where it is sent, and only there. -/
theorem watch_modes_read_back :
    encode .v2 (.setWatchMode .tagged (some 5)) = .ok [7, 2, 0, 0, 0, 0, 0, 0, 0, 5] ∧
      decode .v2 [7, 2, 0, 0, 0, 0, 0, 0, 0, 5] = some (.setWatchMode .tagged (some 5)) ∧
      encode .v3 (.setWatchMode .watching (some 5)) = .ok [7, 1] ∧
      decode .v3 [7, 1] = some (.setWatchMode .watching none) ∧ Grammar .v3 [7, 1] := by
  have said : encode .v2 (.setWatchMode .tagged (some 5)) =
      .ok [7, 2, 0, 0, 0, 0, 0, 0, 0, 5] := rfl
  have saidToo : encode .v3 (.setWatchMode .watching (some 5)) = .ok [7, 1] := rfl
  obtain ⟨readBack, _, _, _⟩ := decode_inverts_encode .v2
  obtain ⟨readToo, _, accepted, _⟩ := decode_inverts_encode .v3
  have found := readToo _ _ saidToo
  exact ⟨said, readBack _ _ said, saidToo, found, (accepted _).mp (by rw [found]; rfl)⟩

end Image

end Action

end WatchLink
