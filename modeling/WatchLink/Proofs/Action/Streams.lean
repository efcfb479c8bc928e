import WatchLink.Action.Reading

/-!
# Streams of actions

Messages follow one another without a mark in between, so a stream is to tell by itself where one
message ends and the next begins. It nearly does: `read_message` finds the end of every message but
for the tag of a watch mode, which is not announced. A tagged watch mode that was sent without a tag
leaves open whether the next eight bytes are its tag. `streams_coincide_iff` says that two lists of
actions are sent as the same bytes just where they say the same, or where one of them uses that
freedom and what follows happens to begin with those eight bytes.
-/

namespace WatchLink

set_option autoImplicit false

namespace Action

def stream (revision : Revision) : List Action → Except ClientError Bytes
  | [] => .ok []
  | action :: later =>
      match action.encode revision with
      | .ok bytes => (stream revision later).map (bytes ++ ·)
      | .error cause => .error cause

def untagged : Action → Action
  | setWatchMode mode _ => setWatchMode mode none
  | action => action

/-- The bytes of an action for which neither its operation code nor its length field accounts. -/
def tagBytes (revision : Revision) : Action → Bytes
  | setWatchMode mode tag => ((sentTag revision mode tag).map Numeral.long.encode).getD []
  | _ => []

/-- The lists say the same up to a tagged watch mode, which has a tag in the first list and none in
the second; and what the second list goes on with is sent as that tag and the rest of the first. -/
def Confusable (revision : Revision) (first second : List Action) : Prop :=
  revision = .v2 ∧ ∃ (tag : UInt64) (front after before behind : List Action),
    first = front ++ setWatchMode .tagged (some tag) :: after ∧
      second = before ++ setWatchMode .tagged none :: behind ∧
      front.map (asSent revision) = before.map (asSent revision) ∧
      stream revision behind = (stream revision after).map (Numeral.long.encode tag ++ ·)

/-! ## One message -/

section Message

variable {revision : Revision}

theorem opcode_bytes_of_ne (modern : revision ≠ .v1) (kind : ActionKind) :
    opcodeBytes revision kind = Numeral.byte.encode kind.opcode := by
  cases revision with
  | v1 => exact (modern rfl).elim
  | v2 | v3 => rfl

theorem read_opcode (modern : revision ≠ .v1) (kind : ActionKind) (content : Bytes) :
    read revision .no (opcodeBytes revision kind ++ content) =
      match kind with
      | .ping => some (ping, content)
      | .close | .addEntry => readAddEntry content
      | .removeEntry => readRemoveEntry content
      | .setWatchMode => readSetWatchMode revision .no content := by
  have code := Numeral.read_encode_append Numeral.byte kind.opcode content
  rw [opcode_bytes_of_ne modern]
  cases revision with
  | v1 => exact (modern rfl).elim
  | v2 | v3 =>
      simp only [read, code, Option.bind_eq_bind, Option.bind_some]
      cases kind <;> rfl

theorem read_opcode_short (kind : ActionKind) (rest : Bytes) :
    read .v1 .no (opcodeBytes .v1 kind ++ rest) =
      match kind with
      | .ping => some (ping, rest)
      | .close | .addEntry => some (close, rest)
      | .removeEntry | .setWatchMode => none := by
  have code := Numeral.read_encode_append Numeral.short kind.opcode.toUInt16 rest
  have same : opcodeBytes .v1 kind = Numeral.short.encode kind.opcode.toUInt16 := by
    cases kind <;> rfl
  rw [same]
  simp only [read, readShort, code, Option.bind_eq_bind, Option.bind_some]
  cases kind <;> rfl

theorem read_add_entry (timestamp : Int64) {data : Bytes} (fits : ¬dataLimit < data.length)
    (rest : Bytes) :
    readAddEntry (Numeral.signed.encode timestamp ++
      (Numeral.short.encode (UInt16.ofNat data.length) ++ (data ++ rest))) =
        some (addEntry timestamp data, rest) := by
  have length : (UInt16.ofNat data.length).toNat = data.length := by
    rw [UInt16.toNat_ofNat']
    exact Nat.mod_eq_of_lt (by simp only [dataLimit] at fits; omega)
  simp [readAddEntry, Numeral.read_encode_append, length, Reader.block_append]

theorem read_remove_entry (timestamp : Int64) (id : UInt16) (rest : Bytes) :
    readRemoveEntry (Numeral.signed.encode timestamp ++ (Numeral.short.encode id ++ rest)) =
      some (removeEntry timestamp id, rest) := by
  simp [readRemoveEntry, Numeral.read_encode_append]

theorem read_set_watch_mode {mode : WatchMode} {byte : UInt8}
    (known : revision.watchModeByte mode = some byte) (rest : Bytes) :
    readSetWatchMode revision .no (Numeral.byte.encode byte ++ rest) =
      some (setWatchMode mode none, rest) := by
  simp [readSetWatchMode, Numeral.read_encode_append,
    Revision.watch_mode_of_watch_mode_byte revision mode byte known]

variable {action other : Action} {bytes : Bytes}

/-- A message is found at the front of what it begins, but for its tag, which is left over. -/
theorem read_message (said : action.encode revision = .ok bytes) (rest : Bytes) :
    read revision .no (bytes ++ rest) =
      some (action.untagged, action.tagBytes revision ++ rest) := by
  cases action with
  | ping =>
      cases said
      by_cases old : revision = .v1
      · subst old
        exact read_opcode_short .ping rest
      · exact read_opcode old .ping rest
  | close =>
      cases revision with
      | v1 =>
          cases said
          exact read_opcode_short .close rest
      | v2 | v3 => cases said
  | addEntry timestamp data =>
      have modern : revision ≠ .v1 := by
        rintro rfl
        cases said
      simp only [encode] at said
      split at said
      · cases said
      · split at said
        · cases said
        next fits =>
          cases said
          simp only [List.append_assoc]
          rw [read_opcode modern .addEntry]
          exact read_add_entry timestamp fits rest
  | removeEntry timestamp id =>
      have modern : revision ≠ .v1 := by
        rintro rfl
        cases said
      simp only [encode] at said
      split at said
      · cases said
      · cases said
        simp only [List.append_assoc]
        rw [read_opcode modern .removeEntry]
        exact read_remove_entry timestamp id rest
  | setWatchMode mode tag =>
      have modern : revision ≠ .v1 := by
        rintro rfl
        cases said
      simp only [encode] at said
      split at said
      · cases said
      · split at said
        · cases said
        next byte known =>
          cases said
          simp only [List.append_assoc]
          rw [read_opcode modern .setWatchMode]
          exact read_set_watch_mode known _

theorem encode_as_sent (revision : Revision) (action : Action) :
    (action.asSent revision).encode revision = action.encode revision := by
  cases action with
  | setWatchMode mode tag =>
      have again : sentTag revision mode (sentTag revision mode tag) =
          sentTag revision mode tag := by
        simp only [sentTag]
        split <;> simp_all
      simp only [asSent, encode, again]
  | _ => rfl

end Message

/-! ## Two messages that begin the same bytes -/

theorem sent_tag_eq_some {revision : Revision} {mode : WatchMode} {tag : Option UInt64}
    {number : UInt64} (sends : sentTag revision mode tag = some number) :
    revision = .v2 ∧ mode = .tagged ∧ tag = some number := by
  simp only [sentTag] at sends
  split at sends
  next tagged =>
    obtain ⟨supported, same⟩ := tagged
    cases revision with
    | v2 => exact ⟨rfl, same, sends⟩
    | v1 | v3 => cases supported
  next => cases sends

theorem sent_tag_of_v2 (tag : Option UInt64) : sentTag .v2 .tagged tag = tag := rfl

/-- How a message that is sent without a tag can be taken for one with a tag. -/
structure Misread (revision : Revision) (tag : UInt64) (tagged bare : Action)
    (behindTagged behindBare : Bytes) : Prop where
  revision : revision = .v2
  tagged : tagged = setWatchMode .tagged (some tag)
  bare : bare = setWatchMode .tagged none
  behind : behindBare = Numeral.long.encode tag ++ behindTagged

section Heads

variable {revision : Revision} {first second : Action} {firstRest secondRest : Bytes}

theorem misread_of_tags {mode : WatchMode} {tag other : Option UInt64} {number : UInt64}
    (sends : sentTag revision mode tag = some number) (omits : sentTag revision mode other = none)
    (same : Numeral.long.encode number ++ firstRest = secondRest) :
    Misread revision number (setWatchMode mode tag) (setWatchMode mode other) firstRest
      secondRest := by
  obtain ⟨rfl, rfl, rfl⟩ := sent_tag_eq_some sends
  rw [sent_tag_of_v2] at omits
  subst omits
  exact ⟨rfl, rfl, rfl, same.symm⟩

theorem heads_of_same_bytes {front back : Bytes} (said : first.encode revision = .ok front)
    (saidToo : second.encode revision = .ok back)
    (same : front ++ firstRest = back ++ secondRest) :
    (first.asSent revision = second.asSent revision ∧ firstRest = secondRest) ∨
      (∃ tag, Misread revision tag first second firstRest secondRest) ∨
        ∃ tag, Misread revision tag second first secondRest firstRest := by
  have found := read_message said firstRest
  rw [same, read_message saidToo secondRest] at found
  simp only [Option.some.injEq, Prod.mk.injEq] at found
  obtain ⟨sameKind, sameTags⟩ := found
  cases first with
  | setWatchMode mode tag =>
      cases second with
      | setWatchMode otherMode other =>
          obtain rfl : otherMode = mode := by simpa [untagged] using sameKind
          simp only [tagBytes] at sameTags
          simp only [asSent]
          -- Only a tag that is missing can be taken for what follows.
          cases sends : sentTag revision otherMode tag with
          | none =>
              cases sendsToo : sentTag revision otherMode other with
              | none => exact .inl ⟨rfl, by simpa [sends, sendsToo] using sameTags.symm⟩
              | some number =>
                  refine .inr (.inr ⟨number, misread_of_tags sendsToo sends ?_⟩)
                  simpa [sends, sendsToo] using sameTags
          | some number =>
              cases sendsToo : sentTag revision otherMode other with
              | none =>
                  refine .inr (.inl ⟨number, misread_of_tags sends sendsToo ?_⟩)
                  simpa [sends, sendsToo] using sameTags.symm
              | some otherNumber =>
                  have tags : Numeral.long.encode otherNumber ++ secondRest =
                      Numeral.long.encode number ++ firstRest := by
                    simpa [sends, sendsToo] using sameTags
                  have read := Numeral.read_encode_append Numeral.long otherNumber secondRest
                  rw [tags, Numeral.read_encode_append] at read
                  cases read
                  exact .inl ⟨rfl, rfl⟩
      | _ => cases sameKind
  | _ =>
      cases second with
      | setWatchMode => cases sameKind
      | _ =>
          exact .inl ⟨sameKind.symm, sameTags.symm⟩

end Heads

/-! ## Streams -/

section Streams

variable {revision : Revision} {first second : List Action} {bytes : Bytes}

theorem stream_cons_eq_ok {action : Action} {later : List Action} :
    stream revision (action :: later) = .ok bytes ↔
      ∃ front back, action.encode revision = .ok front ∧ stream revision later = .ok back ∧
        bytes = front ++ back := by
  cases said : action.encode revision with
  | error cause => simp [stream, said]
  | ok front =>
      cases rest : stream revision later <;> simp [stream, said, rest, Except.map, eq_comm]

theorem encode_ne_nil {action : Action} (said : action.encode revision = .ok bytes) :
    bytes ≠ [] := by
  rintro rfl
  have found := read_message said []
  cases revision <;> cases found

theorem eq_nil_of_stream_eq_nil (said : stream revision first = .ok []) : first = [] := by
  cases first with
  | nil => rfl
  | cons action later =>
      obtain ⟨front, back, sent, _, empty⟩ := stream_cons_eq_ok.mp said
      exact (encode_ne_nil sent (List.append_eq_nil_iff.mp empty.symm).1).elim

theorem stream_as_sent (revision : Revision) (actions : List Action) :
    stream revision (actions.map (asSent revision)) = stream revision actions := by
  induction actions with
  | nil => rfl
  | cons action later ih => simp only [List.map_cons, stream, encode_as_sent, ih]

theorem stream_append (revision : Revision) (front back : List Action) :
    stream revision (front ++ back) =
      match stream revision front with
      | .ok bytes => (stream revision back).map (bytes ++ ·)
      | .error cause => .error cause := by
  induction front with
  | nil => cases rest : stream revision back <;> simp [stream, rest, Except.map]
  | cons action later ih =>
      simp only [List.cons_append, stream]
      cases action.encode revision with
      | error cause => rfl
      | ok bytes =>
          cases said : stream revision later <;> cases rest : stream revision back <;>
            simp [ih, said, rest, Except.map]

theorem stream_of_confusable (confusable : Confusable revision first second) :
    stream revision second = stream revision first := by
  obtain ⟨rfl, tag, front, after, before, behind, rfl, rfl, alike, behindSame⟩ := confusable
  have fronts : stream .v2 before = stream .v2 front := by
    rw [← stream_as_sent, ← alike, stream_as_sent]
  have tails : stream .v2 (setWatchMode .tagged none :: behind) =
      stream .v2 (setWatchMode .tagged (some tag) :: after) := by
    simp only [stream, encode, Revision.supportsWatchMode, Revision.watchModeByte, sent_tag_of_v2,
      behindSame]
    cases stream .v2 after <;> simp [Except.map]
  rw [stream_append, stream_append, fronts, tails]

theorem Confusable.cons {action other : Action}
    (alike : action.asSent revision = other.asSent revision)
    (confusable : Confusable revision first second) :
    Confusable revision (action :: first) (other :: second) := by
  obtain ⟨modern, tag, front, after, before, behind, rfl, rfl, fronts, behindSame⟩ := confusable
  exact ⟨modern, tag, action :: front, after, other :: before, behind, rfl, rfl,
    by simp [alike, fronts], behindSame⟩

theorem confusable_of_misread {tag : UInt64} {tagged bare : Action} {back behind : Bytes}
    (said : stream revision first = .ok back) (saidToo : stream revision second = .ok behind)
    (misread : Misread revision tag tagged bare back behind) :
    Confusable revision (tagged :: first) (bare :: second) := by
  obtain ⟨modern, rfl, rfl, rfl⟩ := misread
  exact ⟨modern, tag, [], first, [], second, rfl, rfl, rfl, by rw [said, saidToo]; rfl⟩

/-- Two lists of actions of which one can be sent are sent as the same bytes just where they say the
same, or where a tagged watch mode without a tag is taken for one with a tag. Only revision 2 has
tags. -/
theorem streams_coincide_iff (said : stream revision first = .ok bytes) :
    stream revision second = .ok bytes ↔
      first.map (asSent revision) = second.map (asSent revision) ∨
        Confusable revision first second ∨ Confusable revision second first := by
  constructor
  · intro saidToo
    induction first generalizing second bytes with
    | nil =>
        cases said
        exact .inl (by rw [eq_nil_of_stream_eq_nil saidToo])
    | cons action later ih =>
        cases second with
        | nil =>
            cases saidToo
            cases eq_nil_of_stream_eq_nil said
        | cons other others =>
            obtain ⟨front, back, sent, rest, rfl⟩ := stream_cons_eq_ok.mp said
            obtain ⟨before, behind, sentToo, restToo, same⟩ := stream_cons_eq_ok.mp saidToo
            rcases heads_of_same_bytes sent sentToo same with
              ⟨alike, rfl⟩ | ⟨tag, misread⟩ | ⟨tag, misread⟩
            · rcases ih rest restToo with maps | confusable | confusable
              · exact .inl (by simp [alike, maps])
              · exact .inr (.inl (confusable.cons alike))
              · exact .inr (.inr (confusable.cons alike.symm))
            · exact .inr (.inl (confusable_of_misread rest restToo misread))
            · exact .inr (.inr (confusable_of_misread restToo rest misread))
  · rintro (maps | confusable | confusable)
    · rw [← stream_as_sent, ← maps, stream_as_sent, said]
    · rw [stream_of_confusable confusable, said]
    · rw [← stream_of_confusable confusable, said]

/-- An entry whose data looks like messages, and a watch mode with a tag of zeros. -/
def entryAndTag : List Action := [.addEntry 5 [7, 2, 0, 0], .setWatchMode .tagged (some 0)]

/-- The same entry, the watch mode without its tag, and as many pings as a tag has bytes. -/
def entryAndPings : List Action :=
  .addEntry 5 [7, 2, 0, 0] :: .setWatchMode .tagged none :: List.replicate 8 .ping

def entryBytes : Bytes :=
  [2, 0, 0, 0, 0, 0, 0, 0, 5, 0, 4, 7, 2, 0, 0, 7, 2, 0, 0, 0, 0, 0, 0, 0, 0]

theorem entry_and_tag_confusable :
    stream .v2 entryAndTag = .ok entryBytes ∧ stream .v2 entryAndPings = .ok entryBytes ∧
      (Confusable .v2 entryAndTag entryAndPings ∨ Confusable .v2 entryAndPings entryAndTag) := by
  have said : stream .v2 entryAndTag = .ok entryBytes := rfl
  have saidToo : stream .v2 entryAndPings = .ok entryBytes := rfl
  have different : entryAndTag.map (asSent .v2) ≠ entryAndPings.map (asSent .v2) := by decide
  exact ⟨said, saidToo, ((streams_coincide_iff said).mp saidToo).resolve_left different⟩

theorem tag_taken_for_pings :
    stream .v2 [.setWatchMode .tagged (some 0)] =
        .ok [7, 2, 0, 0, 0, 0, 0, 0, 0, 0] ∧
      stream .v2 (.setWatchMode .tagged none :: List.replicate 8 .ping) =
        .ok [7, 2, 0, 0, 0, 0, 0, 0, 0, 0] ∧
      [setWatchMode .tagged (some 0)].map (asSent .v2) ≠
        (setWatchMode .tagged none :: List.replicate 8 ping).map (asSent .v2) := by
  refine ⟨by rfl, by rfl, ?_⟩
  decide

end Streams

end Action

end WatchLink
