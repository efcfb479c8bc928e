import WatchLink.Proofs.Action.Appending
import WatchLink.Proofs.Dealings.Steps

/-!
# Calls that fail

A caller that is alone with a link learns from the failure of a call which phase the link is in,
whether a response is outstanding, why the action cannot be said, or what the host refused:
`Link.Refusals`. Unless it was the host that refused, a call that fails leaves no trace. Where an
action was registered before it turned out that it could not be sent, its ticket is given up again
and nobody ever hears of it: `Link.Untouched`.

A host that refuses a thread has closed the link, and one that refuses to write may have written the
beginning of the action all the same: `Link.unstarted`, and `sent` in `Link.Refusals`.
-/

namespace WatchLink

set_option autoImplicit false

theorem Action.encode_eq_error {action : Action} {revision : Revision} {cause : ClientError}
    (unsaid : action.encode revision = .error cause) :
    (∃ what, cause = .unsupported what revision) ∨ ∃ length, cause = .dataTooLong length := by
  cases inexpressible_of_encode unsaid with
  | tooLong => exact .inr ⟨_, rfl⟩
  | _ => exact .inl ⟨_, rfl⟩

def Call.carries : Call → Option Action
  | send action | act action => some action
  | _ => none

/-- Giving up what was just registered leaves a ticket of which nothing will come. -/
theorem Exchange.release_of_register {exchange later : Exchange} {ticket : Nat}
    (registered : exchange.register = .ok (ticket, later)) :
    later.release =
      { exchange with tickets := exchange.tickets ++ [{ progress := .spent }] } := by
  obtain ⟨free, _, rfl⟩ := register_ok registered
  have last : exchange.tickets.length < (exchange.tickets ++ [({} : Ticket)]).length := by simp
  simp [release, conclude, setProgress, free, List.modify_eq_take_cons_drop last]

namespace Link

/-- The ticket of an action that was registered and not sent. -/
def withUnsent (link : Link) : Link :=
  { link with exchange :=
      { link.exchange with tickets := link.exchange.tickets ++ [{ progress := .spent }] } }

def unavailable (link : Link) : ClientError :=
  if link.phase = .closed then .linkClosed else .notConnected

/-! ## What a call comes to -/

def unstarted (reason : String) (link : Link) : Link :=
  { link with
    phase := .closed
    signal := link.signal.fire (.failed link.settings.address reason)
    exchange := link.exchange.closeInboxes }

section Calls

variable {link : Link} (host : Host)

theorem call_start_of_disconnected (fresh : link.phase = .disconnected) :
    link.call .start = (some .done, { link with phase := .connecting, worker := .dialing }) := by
  simp [call, callOn, Call.begin, Task.remaining, Task.advanceAtMost, Task.advance, fresh,
    Task.setToWork, Task.receipt?]

theorem call_on_start_of_refused (fresh : link.phase = .disconnected) (reason : String)
    (written : Nat) :
    link.callOn (.refuses reason written) .start =
      (some (.refused (.io reason)), link.unstarted reason) := by
  simp [callOn, Call.begin, Task.remaining, Task.advanceAtMost, Task.advance, fresh,
    Task.setToWork, Task.receipt?, mapExchange, unstarted]

theorem call_on_start_of_closed (closed : link.phase = .closed) :
    link.callOn host .start = (some (.refused .linkClosed), link) := by
  simp [callOn, Call.begin, Task.remaining, Task.advanceAtMost, Task.advance, closed,
    Task.receipt?]

theorem call_on_start_of_started (started : link.phase = .connecting ∨ link.phase = .connected) :
    link.callOn host .start = (some (.refused .alreadyStarted), link) := by
  rcases started with phase | phase <;>
    simp [callOn, Call.begin, Task.remaining, Task.advanceAtMost, Task.advance, phase,
      Task.receipt?]

theorem call_on_send_of_unwritable (unwritable : link.writable = false) (action : Action) :
    link.callOn host (.send action) = (some (.refused link.unavailable), link) := by
  simp [callOn, Call.begin, Task.remaining, Task.advanceAtMost, Task.advance, unwritable,
    Task.refuse, unavailable, Task.receipt?]

section Writable

variable (writable : link.writable = true) {action : Action}

include writable

theorem call_on_send_of_encoded {bytes : Bytes}
    (encoded : action.encode link.revision = .ok bytes) :
    link.callOn host (.send action) = (some (Task.receiptOf (host.write bytes).1),
      { link with sent := link.sent ++ (host.write bytes).2 }) := by
  cases host <;>
    simp [callOn, Call.begin, Task.remaining, Task.advanceAtMost, Task.advance, writable, encoded,
      Host.write, Task.afterWriting, Task.sentReceipt, Task.refuse, Task.receiptOf, Task.receipt?]

theorem call_on_send_of_unsayable {cause : ClientError}
    (unsaid : action.encode link.revision = .error cause) :
    link.callOn host (.send action) = (some (.refused cause), link) := by
  simp [callOn, Call.begin, Task.remaining, Task.advanceAtMost, Task.advance, writable, unsaid,
    Task.refuse, Task.receipt?]

end Writable

theorem call_on_act_of_awaiting (awaiting : link.exchange.isAwaiting = true) (action : Action) :
    link.callOn host (.act action) = (some (.refused .alreadyAwaiting), link) := by
  simp [callOn, Call.begin, Task.remaining, Task.advanceAtMost, Task.advance, Exchange.register,
    awaiting, Task.receipt?]

section Free

variable (free : link.exchange.isAwaiting = false)

include free

theorem register_of_free :
    ∃ ticket exchange, link.exchange.register = .ok (ticket, exchange) := by
  simp [Exchange.register, free]

theorem call_on_act_of_unwritable (unwritable : link.writable = false) (action : Action) :
    link.callOn host (.act action) = (some (.refused link.unavailable), link.withUnsent) := by
  obtain ⟨ticket, exchange, registered⟩ := register_of_free free
  have released := Exchange.release_of_register registered
  simp [callOn, Call.begin, Task.remaining, Task.advanceAtMost, Task.advance, registered,
    unwritable, Task.refuse, unavailable, mapExchange, released, withUnsent, Task.receipt?]

section Writable

variable (writable : link.writable = true) {action : Action}

include writable

theorem call_on_act_of_unsayable {cause : ClientError}
    (unsaid : action.encode link.revision = .error cause) :
    link.callOn host (.act action) = (some (.refused cause), link.withUnsent) := by
  obtain ⟨ticket, exchange, registered⟩ := register_of_free free
  have released := Exchange.release_of_register registered
  simp only [revision] at unsaid
  simp [callOn, Call.begin, Task.remaining, Task.advanceAtMost, Task.advance, registered, writable,
    revision, unsaid, Task.refuse, mapExchange, released, withUnsent, Task.receipt?]

theorem call_on_act_of_granted {bytes : Bytes}
    (encoded : action.encode link.revision = .ok bytes) :
    ∃ ticket exchange, link.exchange.register = .ok (ticket, exchange) ∧
      link.callOn .grants (.act action) =
        (some (.number ticket), { link with exchange, sent := link.sent ++ bytes }) := by
  obtain ⟨ticket, exchange, registered⟩ := register_of_free free
  simp only [revision] at encoded
  refine ⟨ticket, exchange, registered, ?_⟩
  simp [callOn, Call.begin, Task.remaining, Task.advanceAtMost, Task.advance, registered, writable,
    revision, encoded, Host.write, Task.afterWriting, Task.sentReceipt, Task.receipt?]

theorem call_on_act_of_refused {bytes : Bytes}
    (encoded : action.encode link.revision = .ok bytes) (reason : String) (written : Nat) :
    link.callOn (.refuses reason written) (.act action) = (some (.refused (.io reason)),
      { link.withUnsent with sent := link.sent ++ bytes.take written }) := by
  obtain ⟨ticket, exchange, registered⟩ := register_of_free free
  have released := Exchange.release_of_register registered
  simp only [revision] at encoded
  simp [callOn, Call.begin, Task.remaining, Task.advanceAtMost, Task.advance, registered, writable,
    revision, encoded, Host.write, Task.afterWriting, Task.refuse, mapExchange, released,
    withUnsent, Task.receipt?]

end Writable

end Free

end Calls

/-! ## What its failure tells -/

def Fails (link : Link) (host : Host) (call : Call) (cause : ClientError) : Prop :=
  (link.callOn host call).1 = some (.refused cause)

/-- Everything is as it was before, except that there may be more tickets: ones that no call
reported and of which nothing will come. -/
def Untouched (before after : Link) : Prop :=
  ∃ unsent : List Ticket, (∀ ticket ∈ unsent, ticket.progress = .spent) ∧
    after = { before with exchange :=
      { before.exchange with tickets := before.exchange.tickets ++ unsent } }

/-- What the failure of a call tells somebody who is alone with the link, on any host. -/
structure Refusals (link : Link) (host : Host) : Prop where
  startClosed : link.Fails host .start .linkClosed ↔ link.phase = .closed
  startTwice : (∃ text, link.Fails host .start (.misuse text)) ↔
    link.phase = .connecting ∨ link.phase = .connected
  starts : (link.callOn host .start).1 = some .done ↔ link.phase = .disconnected ∧ host = .grants
  startRefused : ∀ reason, link.Fails host .start (.io reason) ↔
    link.phase = .disconnected ∧ ∃ written, host = .refuses reason written
  closed : ∀ (call : Call) (action : Action), call.carries = some action →
    (link.Fails host call .linkClosed ↔ link.phase = .closed)
  early : ∀ (call : Call) (action : Action), call.carries = some action →
    (link.Fails host call .notConnected ↔
      link.phase = .disconnected ∨ link.phase = .connecting)
  /-- Whether the action could be said at all is not asked. -/
  twice : link.phase = .connected → ∀ action : Action,
    ((∃ text, link.Fails host (.act action) (.misuse text)) ↔ link.exchange.isAwaiting = true)
  unsayable : link.phase = .connected → ∀ (call : Call) (action : Action),
    call.carries = some action → (call = .act action → link.exchange.isAwaiting = false) →
    ∀ cause, (host = .grants ∨ ∀ reason, cause ≠ .io reason) →
      (link.Fails host call cause ↔ action.encode link.revision = .error cause)
  sends : link.phase = .connected → ∀ (call : Call) (action : Action) (bytes : Bytes),
    call.carries = some action → (call = .act action → link.exchange.isAwaiting = false) →
    action.encode link.revision = .ok bytes → host = .grants →
    ∃ receipt, (link.callOn host call).1 = some receipt ∧ (∀ cause, receipt ≠ .refused cause) ∧
      (link.callOn host call).2.sent = link.sent ++ bytes
  writeRefused : ∀ (call : Call) (action : Action), call.carries = some action →
    ∀ reason, link.Fails host call (.io reason) ↔
      link.phase = .connected ∧ (call = .act action → link.exchange.isAwaiting = false) ∧
        (∃ bytes, action.encode link.revision = .ok bytes) ∧
          ∃ written, host = .refuses reason written
  /-- A failure that is not the host's leaves no trace. -/
  untouched : ∀ (call : Call) (cause : ClientError), call = .start ∨ call.carries.isSome = true →
    link.Fails host call cause → (host = .grants ∨ ∀ reason, cause ≠ .io reason) →
    Untouched link (link.callOn host call).2
  /-- Without a thread the link is closed, for good. -/
  unstarted : link.phase = .disconnected → ∀ reason written, host = .refuses reason written →
    (link.callOn host .start).2 = link.unstarted reason
  /-- What went out of an action stays written, and nothing else is left of it. -/
  unwritten : link.phase = .connected → ∀ (call : Call) (action : Action) (bytes : Bytes),
    call.carries = some action → (call = .act action → link.exchange.isAwaiting = false) →
    action.encode link.revision = .ok bytes → ∀ reason written, host = .refuses reason written →
    Untouched { link with sent := link.sent ++ bytes.take written } (link.callOn host call).2

theorem untouched_refl (link : Link) : Untouched link link := ⟨[], by simp, by simp⟩

theorem untouched_with_unsent (link : Link) : Untouched link link.withUnsent :=
  ⟨[{ progress := .spent }], by simp, rfl⟩

section Outcomes

variable {link : Link} {host : Host} {call : Call} {action : Action}

theorem Fails.unique {cause other : ClientError} (fails : link.Fails host call cause)
    (also : link.Fails host call other) : cause = other := by
  have same := fails.symm.trans also
  cases same
  rfl

theorem not_fails_of_accepted {receipt : Receipt}
    (reported : (link.callOn host call).1 = some receipt)
    (accepted : ∀ cause, receipt ≠ .refused cause) (cause : ClientError) :
    ¬link.Fails host call cause := by
  intro fails
  exact accepted cause (Option.some.inj (reported.symm.trans fails))

inductive Outcomes (link : Link) (host : Host) (call : Call) (action : Action) : Prop where
  | unavailable (unconnected : link.phase ≠ .connected)
      (fails : link.Fails host call link.unavailable)
      (untouched : Untouched link (link.callOn host call).2)
  | twice (connected : link.phase = .connected) (acts : call = .act action)
      (awaiting : link.exchange.isAwaiting = true) (fails : link.Fails host call .alreadyAwaiting)
      (untouched : Untouched link (link.callOn host call).2)
  | unsayable (connected : link.phase = .connected)
      (free : call = .act action → link.exchange.isAwaiting = false) (cause : ClientError)
      (unsaid : action.encode link.revision = .error cause) (fails : link.Fails host call cause)
      (untouched : Untouched link (link.callOn host call).2)
  | sent (connected : link.phase = .connected)
      (free : call = .act action → link.exchange.isAwaiting = false) (bytes : Bytes)
      (encoded : action.encode link.revision = .ok bytes) (granted : host = .grants)
      (receipt : Receipt) (reported : (link.callOn host call).1 = some receipt)
      (accepted : ∀ cause, receipt ≠ .refused cause)
      (written : (link.callOn host call).2.sent = link.sent ++ bytes)
  | unwritten (connected : link.phase = .connected)
      (free : call = .act action → link.exchange.isAwaiting = false) (bytes : Bytes)
      (encoded : action.encode link.revision = .ok bytes) (reason : String) (written : Nat)
      (refused : host = .refuses reason written) (fails : link.Fails host call (.io reason))
      (left : Untouched { link with sent := link.sent ++ bytes.take written }
        (link.callOn host call).2)

theorem outcomes_of_send (consistent : link.Consistent) (host : Host) (action : Action) :
    Outcomes link host (.send action) action := by
  by_cases connected : link.phase = .connected
  · have writable := consistent.writable.mpr connected
    cases encoded : action.encode link.revision with
    | ok bytes =>
        have came := call_on_send_of_encoded host writable encoded
        cases host with
        | grants =>
            exact .sent connected (by simp) bytes encoded rfl .done (by rw [came]; rfl) (by simp)
              (by rw [came]; rfl)
        | refuses reason written =>
            exact .unwritten connected (by simp) bytes encoded reason written rfl
              (by rw [Fails, came]; rfl) (by rw [came]; exact untouched_refl _)
    | error cause =>
        have came := call_on_send_of_unsayable host writable encoded
        exact .unsayable connected (by simp) cause encoded (by rw [Fails, came])
          (by rw [came]; exact link.untouched_refl)
  · have unwritable : link.writable = false :=
      Bool.eq_false_iff.mpr fun writable => connected (consistent.writable.mp writable)
    have came := call_on_send_of_unwritable host unwritable action
    exact .unavailable connected (by rw [Fails, came]) (by rw [came]; exact link.untouched_refl)

theorem outcomes_of_act (consistent : link.Consistent) (host : Host) (action : Action) :
    Outcomes link host (.act action) action := by
  by_cases connected : link.phase = .connected
  · have writable := consistent.writable.mpr connected
    cases awaiting : link.exchange.isAwaiting with
    | true =>
        have came := call_on_act_of_awaiting host awaiting action
        exact .twice connected rfl awaiting (by rw [Fails, came])
          (by rw [came]; exact link.untouched_refl)
    | false =>
        cases encoded : action.encode link.revision with
        | ok bytes =>
            cases host with
            | grants =>
                obtain ⟨ticket, exchange, _, came⟩ :=
                  call_on_act_of_granted awaiting writable encoded
                exact .sent connected (fun _ => awaiting) bytes encoded rfl (.number ticket)
                  (by rw [came]) (by simp) (by rw [came])
            | refuses reason written =>
                have came := call_on_act_of_refused awaiting writable encoded reason written
                exact .unwritten connected (fun _ => awaiting) bytes encoded reason written rfl
                  (by rw [Fails, came])
                  (by rw [came]; exact untouched_with_unsent { link with sent := _ })
        | error cause =>
            have came := call_on_act_of_unsayable host awaiting writable encoded
            exact .unsayable connected (fun _ => awaiting) cause encoded (by rw [Fails, came])
              (by rw [came]; exact link.untouched_with_unsent)
  · have unwritable : link.writable = false :=
      Bool.eq_false_iff.mpr fun writable => connected (consistent.writable.mp writable)
    have free : link.exchange.isAwaiting = false :=
      Bool.eq_false_iff.mpr fun awaiting => connected (consistent.awaiting awaiting)
    have came := call_on_act_of_unwritable host free unwritable action
    exact .unavailable connected (by rw [Fails, came])
      (by rw [came]; exact link.untouched_with_unsent)

theorem outcomes_of_carries (consistent : link.Consistent) (host : Host)
    (carries : call.carries = some action) : Outcomes link host call action := by
  cases call with
  | send said =>
      cases carries
      exact outcomes_of_send consistent host action
  | act said =>
      cases carries
      exact outcomes_of_act consistent host action
  | _ => cases carries

theorem unavailable_eq_link_closed_iff (link : Link) :
    link.unavailable = .linkClosed ↔ link.phase = .closed := by
  unfold unavailable
  split <;> simp_all

theorem unavailable_eq_not_connected_iff (unconnected : link.phase ≠ .connected) :
    link.unavailable = .notConnected ↔ link.phase = .disconnected ∨ link.phase = .connecting := by
  unfold unavailable
  cases phase : link.phase <;> simp_all

theorem unavailable_ne_io (link : Link) (reason : String) : link.unavailable ≠ .io reason := by
  unfold unavailable
  split <;> simp

theorem encode_ne_io (revision : Revision) (action : Action) (reason : String) :
    action.encode revision ≠ .error (.io reason) := by
  intro unsaid
  rcases Action.encode_eq_error unsaid with ⟨what, same⟩ | ⟨length, same⟩ <;> cases same

theorem fails_iff_of_outcomes (outcomes : Outcomes link host call action) {cause : ClientError}
    (unspoken : cause = .linkClosed ∨ cause = .notConnected) :
    link.Fails host call cause ↔ link.phase ≠ .connected ∧ link.unavailable = cause := by
  have ofEncoding : action.encode link.revision ≠ .error cause := by
    intro unsaid
    rcases Action.encode_eq_error unsaid with ⟨what, rfl⟩ | ⟨length, rfl⟩ <;> simp at unspoken
  cases outcomes with
  | unavailable unconnected fails =>
      constructor
      · exact fun also => ⟨unconnected, fails.unique also⟩
      · rintro ⟨_, rfl⟩
        exact fails
  | twice connected _ _ fails =>
      refine ⟨fun also => ?_, fun both => (both.1 connected).elim⟩
      have same : ClientError.alreadyAwaiting = cause := fails.unique also
      rcases unspoken with rfl | rfl <;> cases same
  | unsayable connected _ other unsaid fails =>
      refine ⟨fun also => ?_, fun both => (both.1 connected).elim⟩
      exact (ofEncoding (fails.unique also ▸ unsaid)).elim
  | sent connected _ _ _ _ receipt reported accepted =>
      refine ⟨fun also => ?_, fun both => (both.1 connected).elim⟩
      exact (not_fails_of_accepted reported accepted cause also).elim
  | unwritten connected _ _ _ reason _ _ fails =>
      refine ⟨fun also => ?_, fun both => (both.1 connected).elim⟩
      have same : ClientError.io reason = cause := fails.unique also
      rcases unspoken with rfl | rfl <;> cases same

theorem misused_iff_of_outcomes (connected : link.phase = .connected)
    (outcomes : Outcomes link host (.act action) action) :
    (∃ text, link.Fails host (.act action) (.misuse text)) ↔
      link.exchange.isAwaiting = true := by
  cases outcomes with
  | unavailable unconnected => exact (unconnected connected).elim
  | twice _ _ awaiting fails => exact ⟨fun _ => awaiting, fun _ => ⟨_, fails⟩⟩
  | unsayable _ free cause unsaid fails =>
      rw [free rfl]
      refine ⟨fun ⟨text, also⟩ => ?_, by simp⟩
      have same := fails.unique also
      rcases Action.encode_eq_error unsaid with ⟨what, rfl⟩ | ⟨length, rfl⟩ <;> cases same
  | sent _ free _ _ _ receipt reported accepted =>
      rw [free rfl]
      refine ⟨fun ⟨text, also⟩ => ?_, by simp⟩
      exact (not_fails_of_accepted reported accepted _ also).elim
  | unwritten _ free _ _ _ _ _ fails =>
      rw [free rfl]
      refine ⟨fun ⟨text, also⟩ => ?_, by simp⟩
      cases fails.unique also

theorem fails_iff_of_connected (connected : link.phase = .connected)
    (free : call = .act action → link.exchange.isAwaiting = false)
    (outcomes : Outcomes link host call action) {cause : ClientError}
    (unforced : host = .grants ∨ ∀ reason, cause ≠ .io reason) :
    link.Fails host call cause ↔ action.encode link.revision = .error cause := by
  cases outcomes with
  | unavailable unconnected => exact (unconnected connected).elim
  | twice _ acts awaiting => cases awaiting.symm.trans (free acts)
  | unsayable _ _ other unsaid fails =>
      rw [unsaid, Except.error.injEq]
      constructor
      · exact fails.unique
      · rintro rfl
        exact fails
  | sent _ _ bytes encoded _ receipt reported accepted =>
      rw [encoded]
      refine ⟨fun also => ?_, by simp⟩
      exact (not_fails_of_accepted reported accepted cause also).elim
  | unwritten _ _ bytes encoded reason written refused fails =>
      rw [encoded]
      refine ⟨fun also => ?_, by simp⟩
      rcases unforced with granted | other
      · cases granted.symm.trans refused
      · exact (other reason (fails.unique also).symm).elim

/-- The host is to blame just where there was something to write and it refused to. -/
theorem fails_io_iff_of_outcomes (outcomes : Outcomes link host call action) (reason : String) :
    link.Fails host call (.io reason) ↔
      link.phase = .connected ∧ (call = .act action → link.exchange.isAwaiting = false) ∧
        (∃ bytes, action.encode link.revision = .ok bytes) ∧
          ∃ written, host = .refuses reason written := by
  cases outcomes with
  | unavailable unconnected fails =>
      refine ⟨fun also => ?_, fun all => (unconnected all.1).elim⟩
      exact (link.unavailable_ne_io reason (fails.unique also)).elim
  | twice _ acts awaiting fails =>
      refine ⟨fun also => ?_, fun all => ?_⟩
      · cases fails.unique also
      · cases awaiting.symm.trans (all.2.1 acts)
  | unsayable _ _ cause unsaid fails =>
      refine ⟨fun also => ?_, fun all => ?_⟩
      · exact (encode_ne_io _ action reason (fails.unique also ▸ unsaid)).elim
      · obtain ⟨bytes, encoded⟩ := all.2.2.1
        cases unsaid.symm.trans encoded
  | sent _ _ _ _ granted receipt reported accepted =>
      refine ⟨fun also => ?_, fun all => ?_⟩
      · exact (not_fails_of_accepted reported accepted _ also).elim
      · obtain ⟨written, refused⟩ := all.2.2.2
        cases granted.symm.trans refused
  | unwritten connected free bytes encoded other written refused fails =>
      constructor
      · intro also
        cases fails.unique also
        exact ⟨connected, free, ⟨bytes, encoded⟩, written, refused⟩
      · rintro ⟨_, _, _, _, same⟩
        cases refused.symm.trans same
        exact fails

theorem untouched_of_outcomes (outcomes : Outcomes link host call action) {cause : ClientError}
    (failed : link.Fails host call cause)
    (unforced : host = .grants ∨ ∀ reason, cause ≠ .io reason) :
    Untouched link (link.callOn host call).2 := by
  cases outcomes with
  | unavailable _ _ untouched | twice _ _ _ _ untouched | unsayable _ _ _ _ _ untouched =>
      exact untouched
  | sent _ _ _ _ _ receipt reported accepted =>
      exact (not_fails_of_accepted reported accepted cause failed).elim
  | unwritten _ _ _ _ reason _ refused fails =>
      rcases unforced with granted | other
      · cases granted.symm.trans refused
      · exact (other reason (fails.unique failed).symm).elim

end Outcomes

inductive Starts (link : Link) (host : Host) : Prop where
  | granted (fresh : link.phase = .disconnected) (granted : host = .grants)
      (came : link.callOn host .start =
        (some .done, { link with phase := .connecting, worker := .dialing }))
  | refused (fresh : link.phase = .disconnected) (reason : String) (written : Nat)
      (refused : host = .refuses reason written)
      (came : link.callOn host .start = (some (.refused (.io reason)), link.unstarted reason))
  | again (started : link.phase = .connecting ∨ link.phase = .connected)
      (came : link.callOn host .start = (some (.refused .alreadyStarted), link))
  | ended (closed : link.phase = .closed)
      (came : link.callOn host .start = (some (.refused .linkClosed), link))

theorem starts (link : Link) (host : Host) : Starts link host := by
  cases phase : link.phase with
  | disconnected =>
      cases host with
      | grants => exact .granted phase rfl (call_start_of_disconnected phase)
      | refuses reason written =>
          exact .refused phase reason written rfl (call_on_start_of_refused phase reason written)
  | connecting => exact .again (.inl phase) (call_on_start_of_started host (.inl phase))
  | connected => exact .again (.inr phase) (call_on_start_of_started host (.inr phase))
  | closed => exact .ended phase (call_on_start_of_closed host phase)

theorem refusals_of_consistent {link : Link} (consistent : link.Consistent) (host : Host) :
    Refusals link host where
  startClosed := by
    cases starts link host with
    | granted phase _ came | refused phase _ _ _ came | ended phase came =>
        simp [Fails, came, phase]
    | again phase came =>
        rcases phase with phase | phase <;> simp [Fails, came, phase, ClientError.alreadyStarted]
  startTwice := by
    cases starts link host with
    | granted phase _ came | refused phase _ _ _ came | ended phase came =>
        simp [Fails, came, phase]
    | again phase came => simp [Fails, came, phase, ClientError.alreadyStarted]
  starts := by
    cases starts link host with
    | granted phase granted came =>
        rw [came]
        simp [phase, granted]
    | refused _ _ _ refused came =>
        rw [came]
        simp [refused]
    | again phase came => rcases phase with phase | phase <;> simp [came, phase]
    | ended phase came => simp [came, phase]
  startRefused reason := by
    cases starts link host with
    | granted _ granted came =>
        rw [Fails, came]
        simp [granted]
    | refused phase _ _ refused came =>
        rw [Fails, came]
        simp [phase, refused]
    | again phase came =>
        rcases phase with phase | phase <;> simp [Fails, came, phase, ClientError.alreadyStarted]
    | ended phase came => simp [Fails, came, phase]
  closed call action carries := by
    rw [fails_iff_of_outcomes (outcomes_of_carries consistent host carries) (.inl rfl),
      unavailable_eq_link_closed_iff]
    exact ⟨And.right, fun closed => ⟨by simp [closed], closed⟩⟩
  early call action carries := by
    rw [fails_iff_of_outcomes (outcomes_of_carries consistent host carries) (.inr rfl)]
    constructor
    · exact fun both => (unavailable_eq_not_connected_iff both.1).mp both.2
    · intro early
      have unconnected : link.phase ≠ .connected := by
        rcases early with phase | phase <;> simp [phase]
      exact ⟨unconnected, (unavailable_eq_not_connected_iff unconnected).mpr early⟩
  twice connected action :=
    misused_iff_of_outcomes connected (outcomes_of_act consistent host action)
  unsayable connected call action carries free cause unforced :=
    fails_iff_of_connected connected free (outcomes_of_carries consistent host carries) unforced
  sends connected call action bytes carries free encoded granted := by
    cases outcomes_of_carries consistent host carries with
    | unavailable unconnected => exact (unconnected connected).elim
    | twice _ acts awaiting => cases awaiting.symm.trans (free acts)
    | unsayable _ _ _ unsaid => cases encoded.symm.trans unsaid
    | sent _ _ other same _ receipt reported accepted written =>
        cases encoded.symm.trans same
        exact ⟨receipt, reported, accepted, written⟩
    | unwritten _ _ _ _ _ _ refused => cases granted.symm.trans refused
  writeRefused call action carries reason :=
    fails_io_iff_of_outcomes (outcomes_of_carries consistent host carries) reason
  untouched call cause attempts failed unforced := by
    rcases attempts with rfl | carries
    · cases starts link host with
      | granted _ _ came => simp [Fails, came] at failed
      | refused _ reason _ refused came =>
          rw [Fails, came] at failed
          cases failed
          rcases unforced with granted | other
          · cases granted.symm.trans refused
          · exact (other reason rfl).elim
      | again _ came | ended _ came =>
          rw [came]
          exact link.untouched_refl
    · obtain ⟨action, carries⟩ := Option.isSome_iff_exists.mp carries
      exact untouched_of_outcomes (outcomes_of_carries consistent host carries) failed unforced
  unstarted fresh reason written refused := by
    rw [refused, call_on_start_of_refused fresh]
  unwritten connected call action bytes carries free encoded reason written refused := by
    cases outcomes_of_carries consistent host carries with
    | unavailable unconnected => exact (unconnected connected).elim
    | twice _ acts awaiting => cases awaiting.symm.trans (free acts)
    | unsayable _ _ _ unsaid => cases encoded.symm.trans unsaid
    | sent _ _ _ _ granted => cases granted.symm.trans refused
    | unwritten _ _ _ same _ _ also _ left =>
        cases encoded.symm.trans same
        cases refused.symm.trans also
        exact left

end Link

namespace Dealings

/-- Between two calls of somebody who is alone with a link, in every state that can come about and
on any host, the failure of a call tells which phase the link is in, whether a response is
outstanding, why the action cannot be said, or what the host refused; and unless it was the host, it
leaves everything as it was. -/
theorem refusals_of_reachable {state : Dealings} (reachable : state.Reachable)
    (quiet : state.traffic.Quiet) (host : Host) : state.link.Refusals host :=
  Link.refusals_of_consistent (consistent_of_reachable reachable quiet) host

/-- A ping has been sent and its response is outstanding. -/
def awaitingPing : Dealings where
  traffic :=
    { link :=
        { settings := {}
          phase := .connected
          writable := true
          exchange := { revision := .v2, awaiting := some 0, tickets := [{}] }
          signal := { opening := some .ready }
          worker := .reading
          sent := [0] }
      calls := [(.start, .finished .done), (.act .ping, .finished (.number 0))] }

theorem reachable_awaiting_ping : awaitingPing.Reachable :=
  ⟨{}, Traffic.untouched.link,
    [.move (.begin .start), .move (.advance 0 .grants), .move (.arrive .accepted), .move .work,
      .move .work, .move (.begin (.act .ping)), .move (.advance 1 .grants),
      .move (.advance 1 .grants)], rfl, rfl⟩

theorem quiet_awaiting_ping : awaitingPing.traffic.Quiet :=
  Traffic.quiet_of_finished (by simp [awaitingPing, Task.receipt?]) rfl

def brokenPipe : Host := .refuses "Broken pipe (os error 32)" 1

/-- What cannot be said is not written, and what is written is refused after its first byte. -/
theorem refusals_awaiting_ping :
    awaitingPing.Reachable ∧ awaitingPing.traffic.Quiet ∧
      (∃ text, awaitingPing.link.Fails brokenPipe (.act .close) (.misuse text)) ∧
      awaitingPing.link.Fails brokenPipe (.send .close) (.unsupported "Close" .v2) ∧
      awaitingPing.link.Fails brokenPipe (.send (.setWatchMode .all none))
        (.io "Broken pipe (os error 32)") ∧
      Link.Untouched { awaitingPing.link with sent := [0, 7] }
        (awaitingPing.link.callOn brokenPipe (.send (.setWatchMode .all none))).2 := by
  have refusals := refusals_of_reachable reachable_awaiting_ping quiet_awaiting_ping brokenPipe
  refine ⟨reachable_awaiting_ping, quiet_awaiting_ping, (refusals.twice rfl .close).mpr rfl, ?_, ?_,
    ?_⟩
  · exact (refusals.unsayable rfl (.send .close) .close rfl (by simp) _ (.inr (by simp))).mpr rfl
  · exact (refusals.writeRefused (.send (.setWatchMode .all none)) _ rfl _).mpr
      ⟨rfl, by simp, ⟨_, rfl⟩, 1, rfl⟩
  · exact refusals.unwritten rfl (.send (.setWatchMode .all none)) _ [7, 1] rfl (by simp) rfl _ 1
      rfl

def subscribed : Dealings where
  traffic :=
    { link := { settings := {}, exchange := { revision := .v2, inboxes := [{}] } }
      calls := [(.subscribe, .finished (.number 0))] }

theorem reachable_subscribed : subscribed.Reachable :=
  ⟨{}, Traffic.untouched.link, [.move (.begin .subscribe), .move (.advance 0 .grants)], rfl, rfl⟩

/-- A start for which there is no thread fails, and closes the link, its signal and its inboxes. An
action that can be said is not sent where the host fails to write it. -/
theorem host_failures_leave_traces :
    (subscribed.Reachable ∧ subscribed.traffic.Quiet ∧
      subscribed.link.Fails (.refuses "no thread" 0) .start (.io "no thread") ∧
      ¬Link.Untouched subscribed.link (subscribed.link.callOn (.refuses "no thread" 0) .start).2) ∧
    awaitingPing.Reachable ∧ awaitingPing.traffic.Quiet ∧ awaitingPing.link.phase = .connected ∧
      Action.ping.encode awaitingPing.link.revision = .ok [0] ∧
      awaitingPing.link.Fails (.refuses "broken pipe" 0) (.send .ping) (.io "broken pipe") := by
  refine ⟨⟨reachable_subscribed, ?_, rfl, ?_⟩, reachable_awaiting_ping, quiet_awaiting_ping, rfl,
    rfl, rfl⟩
  · exact Traffic.quiet_of_finished (by simp [subscribed, Task.receipt?]) rfl
  · rintro ⟨unsent, _, same⟩
    have phase := congrArg Link.phase same
    cases phase

end Dealings

end WatchLink
