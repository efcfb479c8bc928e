import WatchLink.Proofs.Action.Grammar

/-!
# Writing into a buffer

An action is written part by part into a buffer that already holds something, while `encode` makes
its message in one piece. The two agree: a write adds exactly the message, of exactly the length
that was counted for it, or nothing at all. So what several writes make of one buffer is known from
the messages of those that succeed, `writes_append_whole_messages`.
-/

namespace WatchLink

set_option autoImplicit false

namespace Action

/-- Writes actions to a buffer in turn, each in its own revision: what comes of every write, and the
buffer after the last. -/
def writeEach (buffer : Bytes) :
    List (Action × Revision) → List (Except ClientError Unit) × Bytes
  | [] => ([], buffer)
  | (action, revision) :: later =>
      let (outcome, written) := action.writeTo revision buffer
      let (outcomes, last) := writeEach written later
      (outcome :: outcomes, last)

/-- Why a revision cannot express an action, in the words of the failure. -/
inductive Inexpressible (revision : Revision) : Action → ClientError → Prop where
  | close (modern : revision ≠ .v1) :
      Inexpressible revision close (.unsupported "Close" revision)
  | addEntry (timestamp : Int64) (data : Bytes) (old : revision = .v1) :
      Inexpressible revision (addEntry timestamp data) (.unsupported "AddEntry" revision)
  | tooLong (timestamp : Int64) (data : Bytes) (modern : revision ≠ .v1)
      (long : dataLimit < data.length) :
      Inexpressible revision (addEntry timestamp data) (.dataTooLong data.length)
  | removeEntry (timestamp : Int64) (id : UInt16) (old : revision = .v1) :
      Inexpressible revision (removeEntry timestamp id) (.unsupported "RemoveEntry" revision)
  | setWatchMode (mode : WatchMode) (tag : Option UInt64) (old : revision = .v1) :
      Inexpressible revision (setWatchMode mode tag) (.unsupported "SetWatchMode" revision)
  | watchMode (mode : WatchMode) (tag : Option UInt64) (modern : revision ≠ .v1)
      (unknown : revision.watchModeByte mode = none) :
      Inexpressible revision (setWatchMode mode tag)
        (.unsupported s!"watch mode '{mode.word}'" revision)

/-! ## Part by part, and in one piece -/

section Parts

variable {revision : Revision} {action : Action}

open Writer

/-- A writer does to every buffer what the encoding of an action says. -/
def Obeys (encoded : Except ClientError Bytes) (writer : Writer ClientError Unit) : Prop :=
  (∃ bytes, encoded = .ok bytes ∧ writer.Appends bytes) ∨
    ∃ cause, encoded = .error cause ∧ writer.Refuses cause

theorem obeys_ping (revision : Revision) :
    Obeys (ping.encode revision) (ping.write revision) := by
  refine .inl ⟨_, rfl, ?_⟩
  cases revision <;> exact appends_put _

theorem obeys_close (revision : Revision) :
    Obeys (close.encode revision) (close.write revision) := by
  cases revision with
  | v1 => exact .inl ⟨_, rfl, (appends_put _).after_demand rfl⟩
  | v2 | v3 => exact .inr ⟨_, rfl, refuses_demand rfl _ _⟩

theorem obeys_add_entry (revision : Revision) (timestamp : Int64) (data : Bytes) :
    Obeys ((addEntry timestamp data).encode revision)
      ((addEntry timestamp data).write revision) := by
  cases known : revision.supportsEntries with
  | false =>
      refine .inr ⟨.unsupported "AddEntry" revision, ?_, refuses_demand known _ _⟩
      simp only [encode, known, Bool.not_false, if_true]
  | true =>
      by_cases long : dataLimit < data.length
      · have denied : decide (data.length ≤ dataLimit) = false :=
          decide_eq_false (Nat.not_le.mpr long)
        refine .inr ⟨.dataTooLong data.length, ?_, (refuses_demand denied _ _).after_demand known⟩
        simp only [encode, known, Bool.not_true, Bool.false_eq_true, if_false, long, if_true]
      · have granted : decide (data.length ≤ dataLimit) = true :=
          decide_eq_true (Nat.not_lt.mp long)
        refine .inl ⟨_, encode_add_entry (modern_of_supports_entries known) timestamp long, ?_⟩
        rw [List.append_assoc]
        exact ((((appends_put data).after_put _).after_put _).after_put [2]).after_demand granted
          |>.after_demand known

theorem obeys_remove_entry (revision : Revision) (timestamp : Int64) (id : UInt16) :
    Obeys ((removeEntry timestamp id).encode revision)
      ((removeEntry timestamp id).write revision) := by
  cases known : revision.supportsEntries with
  | false =>
      refine .inr ⟨.unsupported "RemoveEntry" revision, ?_, refuses_demand known _ _⟩
      simp only [encode, known, Bool.not_false, if_true]
  | true =>
      refine .inl ⟨_, encode_remove_entry (modern_of_supports_entries known) timestamp id, ?_⟩
      exact (((appends_put _).after_put _).after_put [4]).after_demand known

/-- The tag is put on a condition of its own; it is the one that `sentTag` states. -/
theorem appends_tag (revision : Revision) (mode : WatchMode) (tag : Option UInt64) :
    Appends ((setWatchMode mode tag).tagBytes revision) (if revision.supportsTags ∧ mode = .tagged
      then match tag with
        | some tag => put (Numeral.long.encode tag)
        | none => pure ()
      else pure () : Writer ClientError Unit) := by
  simp only [tagBytes, sentTag]
  split
  · cases tag with
    | none => exact appends_nothing
    | some tag => exact appends_put _
  · exact appends_nothing

theorem obeys_set_watch_mode (revision : Revision) (mode : WatchMode) (tag : Option UInt64) :
    Obeys ((setWatchMode mode tag).encode revision) ((setWatchMode mode tag).write revision) := by
  cases known : revision.supportsWatchMode with
  | false =>
      refine .inr ⟨.unsupported "SetWatchMode" revision, ?_, refuses_demand known _ _⟩
      simp only [encode, known, Bool.not_false, if_true]
  | true =>
      cases found : revision.watchModeByte mode with
      | none =>
          refine .inr ⟨.unsupported s!"watch mode '{mode.word}'" revision, ?_, ?_⟩
          · simp only [encode, known, Bool.not_true, Bool.false_eq_true, if_false, found]
          · simp only [write, found]
            exact (refuses_throw _).after_demand known
      | some value =>
          refine .inl ⟨_, encode_set_watch_mode found tag, ?_⟩
          simp only [write, found, Numeral.encode_byte]
          exact (((appends_tag revision mode tag).after_put [value]).after_put [7]).after_demand
            known

theorem obeys (revision : Revision) (action : Action) :
    Obeys (action.encode revision) (action.write revision) := by
  cases action with
  | ping => exact obeys_ping revision
  | close => exact obeys_close revision
  | addEntry timestamp data => exact obeys_add_entry revision timestamp data
  | removeEntry timestamp id => exact obeys_remove_entry revision timestamp id
  | setWatchMode mode tag => exact obeys_set_watch_mode revision mode tag

theorem write_to_of_encoded {bytes : Bytes} (encoded : action.encode revision = .ok bytes)
    (buffer : Bytes) : action.writeTo revision buffer = (.ok (), buffer ++ bytes) := by
  rcases obeys revision action with ⟨message, same, appends⟩ | ⟨cause, unsaid, _⟩
  · rw [encoded] at same
    cases same
    exact appends buffer
  · rw [encoded] at unsaid
    cases unsaid

theorem write_to_of_unsaid {cause : ClientError} (unsaid : action.encode revision = .error cause)
    (buffer : Bytes) : action.writeTo revision buffer = (.error cause, buffer) := by
  rcases obeys revision action with ⟨message, encoded, _⟩ | ⟨other, same, refuses⟩
  · rw [unsaid] at encoded
    cases encoded
  · rw [unsaid] at same
    cases same
    exact refuses buffer

end Parts

/-! ## Why a write fails, and how long a message is -/

section Failures

variable {revision : Revision} {action : Action} {cause : ClientError} {bytes : Bytes}

theorem encode_of_inexpressible (beyond : Inexpressible revision action cause) :
    action.encode revision = .error cause := by
  cases beyond with
  | addEntry _ _ old | removeEntry _ _ old | setWatchMode _ _ old =>
      subst old
      rfl
  | close modern =>
      cases revision with
      | v1 => exact (modern rfl).elim
      | v2 | v3 => rfl
  | tooLong _ _ modern long =>
      cases revision with
      | v1 => exact (modern rfl).elim
      | v2 | v3 => simp only [encode, Revision.supportsEntries, Bool.not_true, Bool.false_eq_true,
          if_false, if_pos long]
  | watchMode _ _ modern unknown =>
      cases revision with
      | v1 => exact (modern rfl).elim
      | v2 | v3 => simp only [encode, Revision.supportsWatchMode, Bool.not_true,
          Bool.false_eq_true, if_false, unknown]

theorem inexpressible_of_encode (unsaid : action.encode revision = .error cause) :
    Inexpressible revision action cause := by
  cases action with
  | ping => cases unsaid
  | close =>
      cases revision <;> cases unsaid
      all_goals exact .close (by decide)
  | addEntry timestamp data =>
      by_cases old : revision = .v1
      · subst old
        cases unsaid
        exact .addEntry timestamp data rfl
      · by_cases long : dataLimit < data.length
        · have cut := encode_of_inexpressible (.tooLong timestamp data old long)
          rw [cut] at unsaid
          cases unsaid
          exact .tooLong timestamp data old long
        · rw [encode_add_entry old timestamp long] at unsaid
          cases unsaid
  | removeEntry timestamp id =>
      cases revision <;> cases unsaid
      exact .removeEntry timestamp id rfl
  | setWatchMode mode tag =>
      by_cases old : revision = .v1
      · subst old
        cases unsaid
        exact .setWatchMode mode tag rfl
      · cases found : revision.watchModeByte mode with
        | none =>
            have unheard := encode_of_inexpressible (.watchMode mode tag old found)
            rw [unheard] at unsaid
            cases unsaid
            exact .watchMode mode tag old found
        | some value =>
            rw [encode_set_watch_mode found tag] at unsaid
            cases unsaid

theorem encode_eq_error_iff :
    action.encode revision = .error cause ↔ Inexpressible revision action cause :=
  ⟨inexpressible_of_encode, encode_of_inexpressible⟩

theorem length_tag_bytes (revision : Revision) (mode : WatchMode) (tag : Option UInt64) :
    ((setWatchMode mode tag).tagBytes revision).length =
      if (sentTag revision mode tag).isSome then 8 else 0 := by
  rw [tagBytes]
  cases sentTag revision mode tag with
  | none => rfl
  | some tag => exact Numeral.length_encode Numeral.long tag

theorem length_of_encode (encoded : action.encode revision = .ok bytes) :
    bytes.length = action.encodedLength revision := by
  cases action with
  | ping =>
      cases encoded
      exact BigEndian.length_digits _ _
  | close =>
      cases revision <;> cases encoded
      rfl
  | addEntry timestamp data =>
      have expressible : ∀ cause, ¬Inexpressible revision (addEntry timestamp data) cause := by
        intro cause beyond
        rw [encode_of_inexpressible beyond] at encoded
        cases encoded
      have modern : revision ≠ .v1 := fun old => expressible _ (.addEntry timestamp data old)
      have fits : ¬dataLimit < data.length := fun long =>
        expressible _ (.tooLong timestamp data modern long)
      rw [encode_add_entry modern timestamp fits] at encoded
      cases encoded
      simp only [List.cons_append, List.length_cons, List.length_append, Numeral.length_encode,
        encodedLength, Numeral.signed, Numeral.short]
      omega
  | removeEntry timestamp id =>
      cases revision <;> cases encoded <;> rfl
  | setWatchMode mode tag =>
      cases found : revision.watchModeByte mode with
      | none => cases revision <;> simp [encode, found, Revision.supportsWatchMode] at encoded
      | some value =>
          rw [encode_set_watch_mode found tag] at encoded
          cases encoded
          rw [List.length_cons, List.length_cons, length_tag_bytes, encodedLength, Nat.add_comm 2]

end Failures

/-! ## Many writes to one buffer -/

/-- What one write comes to, whatever the buffer holds: the whole message, or nothing. -/
structure WritesWhole (revision : Revision) (action : Action) (buffer : Bytes) : Prop where
  success : ∀ after, action.writeTo revision buffer = (.ok (), after) ↔
    ∃ bytes, action.encode revision = .ok bytes ∧
      bytes.length = action.encodedLength revision ∧ after = buffer ++ bytes
  failure : ∀ cause after, action.writeTo revision buffer = (.error cause, after) ↔
    Inexpressible revision action cause ∧ after = buffer

theorem writes_whole (revision : Revision) (action : Action) (buffer : Bytes) :
    WritesWhole revision action buffer := by
  cases encoded : action.encode revision with
  | ok bytes =>
      have written := write_to_of_encoded encoded buffer
      refine ⟨fun after => ?_, fun cause after => ?_⟩
      · rw [written, encoded]
        simp only [Prod.mk.injEq, true_and, Except.ok.injEq, exists_eq_left']
        exact ⟨fun same => ⟨length_of_encode encoded, same.symm⟩, fun both => both.2.symm⟩
      · rw [written, ← encode_eq_error_iff, encoded]
        simp
  | error cause =>
      have kept := write_to_of_unsaid encoded buffer
      refine ⟨fun after => ?_, fun other after => ?_⟩
      · rw [kept, encoded]
        simp
      · rw [kept, ← encode_eq_error_iff, encoded]
        simp only [Prod.mk.injEq, Except.error.injEq, eq_comm]

/-- Actions are written to a buffer in turn, each in a revision of its own. Each of them fails or
succeeds as it does by itself; afterwards the buffer holds what it held, and then the messages of
those that succeeded, in order and whole. -/
theorem writes_append_whole_messages (buffer : Bytes) (items : List (Action × Revision)) :
    writeEach buffer items =
        (items.map fun item => (item.1.encode item.2).map fun _ => (),
          buffer ++ (items.filterMap fun item => (item.1.encode item.2).toOption).flatten) ∧
      ∀ (action : Action) (revision : Revision) (before : Bytes),
        WritesWhole revision action before := by
  refine ⟨?_, fun action revision before => writes_whole revision action before⟩
  induction items generalizing buffer with
  | nil => simp [writeEach]
  | cons item later ih =>
      obtain ⟨action, revision⟩ := item
      cases encoded : action.encode revision with
      | ok bytes =>
          simp only [writeEach, write_to_of_encoded encoded, ih]
          simp [encoded, Except.map, Except.toOption]
      | error cause =>
          simp only [writeEach, write_to_of_unsaid encoded, ih]
          simp [encoded, Except.map, Except.toOption]

/-- Closing is no message of revision 2, and leaves no trace between the two that are. -/
example : writeEach [9] [(removeEntry 1 2, .v3), (close, .v2), (ping, .v1)] =
    ([.ok (), .error (.unsupported "Close" .v2), .ok ()],
      [9, 4, 0, 0, 0, 0, 0, 0, 0, 1, 0, 2, 0, 0]) := by decide

end Action

end WatchLink
