import WatchLink.Link.Worker

/-!
# Calls on a link

What a caller can ask of a link, and how far such a call has come. `Task.advance` makes the next
indivisible change of a call: what one lock is held for. What the operating system makes of it is
the business of a `Host`. A caller that is alone on its thread simply lets its call run to the end:
`Link.callOn` some host, and `Link.call` on one that grants everything.
-/

namespace WatchLink

set_option autoImplicit false

inductive Call where
  | start
  /-- Sends an action and claims no response. -/
  | send (action : Action)
  /-- Sends an action and claims the next chunk as its response. -/
  | act (action : Action)
  | subscribe
  /-- Sets a tap that only notes chunks. -/
  | listen
  | awaitOpening
  | close
  deriving DecidableEq, Repr

/-- What the operating system makes of what a change asks of it: a thread for the worker, or the
writing of bytes. -/
inductive Host where
  | grants
  /-- It fails. Of bytes to be written, at most the first `written` have gone out. -/
  | refuses (reason : String) (written : Nat)
  deriving DecidableEq, Repr

inductive Task where
  | starting
  /-- There is no thread for the worker; the signal has still to fire. -/
  | failing (reason : String)
  /-- There is no thread for the worker; the inboxes have still to be closed. -/
  | retiring (reason : String)
  | registering (action : Action)
  /-- About to write; the ticket is the one that was registered for the response, if any was. -/
  | writing (action : Action) (ticket : Option Nat)
  /-- There was nothing to write to; about to ask why. -/
  | explaining (ticket : Option Nat)
  /-- The action was not sent; about to give up its ticket. -/
  | releasing (cause : ClientError)
  | subscribing
  | listening
  | awaiting
  | closing
  /-- The phase is closed; about to take away the write half. -/
  | hangingUp
  /-- About to reject the outstanding ticket; `receipt` is what the call is to report. -/
  | rejecting (receipt : Receipt)
  | closingInboxes (receipt : Receipt)
  | finished (receipt : Receipt)
  deriving DecidableEq, Repr

namespace Host

def write (bytes : Bytes) : Host → Except ClientError Unit × Bytes
  | grants => (.ok (), bytes)
  | refuses reason written => (.error (.io reason), bytes.take written)

end Host

namespace Call

def begin : Call → Task
  | start => .starting
  | send action => .writing action none
  | act action => .registering action
  | subscribe => .subscribing
  | listen => .listening
  | awaitOpening => .awaiting
  | close => .closing

end Call

namespace Task

def remaining : Task → Nat
  | finished _ => 0
  | subscribing | listening | awaiting | releasing _ | closingInboxes _ | retiring _ => 1
  | explaining _ | rejecting _ | failing _ => 2
  | starting | writing _ _ | hangingUp => 3
  | registering _ | closing => 4

/-- A call that could not send its action: the ticket it registered has to be given up. -/
def refuse (cause : ClientError) : Option Nat → Task
  | none => .finished (.refused cause)
  | some _ => .releasing cause

def sentReceipt : Option Nat → Receipt
  | none => .done
  | some ticket => .number ticket

def afterWriting (ticket : Option Nat) : Except ClientError Unit → Task
  | .ok () => .finished (sentReceipt ticket)
  | .error cause => refuse cause ticket

def receiptOf : Except ClientError Unit → Receipt
  | .ok () => .done
  | .error cause => .refused cause

def setToWork (link : Link) : Host → Task × Link
  | .grants => (.finished .done, { link with phase := .connecting, worker := .dialing })
  | .refuses reason _ => (.failing reason, { link with phase := .closed })

def takeLeave (host : Host) (link : Link) : Except ClientError Unit × Bytes :=
  if link.revision.supportsClose then host.write link.farewell else (.ok (), [])

/-- The next change of a call, or nothing where it waits for the worker or has ended. -/
def advance (host : Host) (task : Task) (link : Link) : Option (Task × Link) :=
  match task with
  | .starting =>
      match link.phase with
      | .disconnected => some (setToWork link host)
      | .closed => some (.finished (.refused .linkClosed), link)
      | .connecting | .connected => some (.finished (.refused .alreadyStarted), link)
  | .failing reason =>
      let signal := link.signal.fire (.failed link.settings.address reason)
      some (.retiring reason, { link with signal })
  | .retiring reason =>
      some (.finished (.refused (.io reason)), link.mapExchange Exchange.closeInboxes)
  | .registering action =>
      match link.exchange.register with
      | .ok (ticket, exchange) => some (.writing action (some ticket), { link with exchange })
      | .error cause => some (.finished (.refused cause), link)
  | .writing action ticket =>
      if !link.writable then some (.explaining ticket, link)
      else match action.encode link.revision with
        | .ok bytes =>
            some (afterWriting ticket (host.write bytes).1,
              { link with sent := link.sent ++ (host.write bytes).2 })
        | .error cause => some (refuse cause ticket, link)
  | .explaining ticket =>
      let cause := if link.phase = .closed then .linkClosed else .notConnected
      some (refuse cause ticket, link)
  | .releasing cause => some (.finished (.refused cause), link.mapExchange Exchange.release)
  | .subscribing =>
      let (number, exchange) := link.exchange.subscribe
      some (.finished (.number number), { link with exchange })
  | .listening =>
      let (number, exchange) := link.exchange.tap none
      some (.finished (.number number), { link with exchange })
  | .awaiting => link.signal.opening.map fun opening =>
      (.finished (receiptOf opening.result), link)
  | .closing =>
      if link.phase = .closed then some (.finished .done, link)
      else some (.hangingUp, { link with phase := .closed })
  | .hangingUp =>
      if link.writable then
        some (.rejecting (receiptOf (takeLeave host link).1),
          { link with writable := false, sent := link.sent ++ (takeLeave host link).2 })
      else some (.rejecting .done, link)
  | .rejecting receipt =>
      some (.closingInboxes receipt, link.mapExchange (Exchange.failPending .interrupted))
  | .closingInboxes receipt => some (.finished receipt, link.mapExchange Exchange.closeInboxes)
  | .finished _ => none

theorem remaining_refuse_le (cause : ClientError) (ticket : Option Nat) :
    (refuse cause ticket).remaining ≤ 1 := by
  cases ticket <;> simp [refuse, remaining]

theorem remaining_after_writing_le (ticket : Option Nat) (result : Except ClientError Unit) :
    (afterWriting ticket result).remaining ≤ 1 := by
  cases result with
  | ok => simp [afterWriting, remaining]
  | error cause => exact remaining_refuse_le cause ticket

theorem remaining_set_to_work_le (link : Link) (host : Host) :
    (setToWork link host).1.remaining ≤ 2 := by
  cases host <;> simp [setToWork, remaining]

/-- Every change brings a call nearer to its end. -/
theorem advance_remaining {host : Host} {task next : Task} {link later : Link}
    (advanced : task.advance host link = some (next, later)) : next.remaining < task.remaining := by
  cases task <;> grind [advance, remaining, remaining_refuse_le, remaining_after_writing_le,
    remaining_set_to_work_le, Option.map_eq_some_iff]

theorem advance_eq_none_iff (host : Host) (task : Task) (link : Link) :
    task.advance host link = none ↔
      (∃ receipt, task = .finished receipt) ∨ task = .awaiting ∧ link.signal.opening = none := by
  cases task with
  | starting =>
      cases phase : link.phase <;> simp [advance, phase]
  | registering =>
      simp only [advance]
      split <;> simp
  | writing action ticket =>
      simp only [advance]
      split
      · simp
      · split <;> simp
  | closing | hangingUp =>
      simp only [advance]
      split <;> simp
  | _ => simp [advance]

theorem refuse_ne_awaiting (cause : ClientError) (ticket : Option Nat) :
    refuse cause ticket ≠ .awaiting := by
  cases ticket <;> simp [refuse]

theorem after_writing_ne_awaiting (ticket : Option Nat) (result : Except ClientError Unit) :
    afterWriting ticket result ≠ .awaiting := by
  cases result with
  | ok => simp [afterWriting]
  | error cause => exact refuse_ne_awaiting cause ticket

theorem set_to_work_ne_awaiting (link : Link) (host : Host) :
    (setToWork link host).1 ≠ .awaiting := by
  cases host <;> simp [setToWork]

theorem ne_awaiting_of_advance {host : Host} {task next : Task} {link later : Link}
    (advanced : task.advance host link = some (next, later)) : next ≠ .awaiting := by
  cases task <;> grind [advance, refuse_ne_awaiting, after_writing_ne_awaiting,
    set_to_work_ne_awaiting, Option.map_eq_some_iff]

def advanceAtMost (host : Host) : Nat → Task → Link → Task × Link
  | 0, task, link => (task, link)
  | count + 1, task, link =>
      match task.advance host link with
      | none => (task, link)
      | some (next, later) => advanceAtMost host count next later

section Running

variable (host : Host)

theorem advance_at_most_of_remaining_le {count : Nat} {task : Task}
    (enough : task.remaining ≤ count) (link : Link) :
    (task.advanceAtMost host count link).1.advance host (task.advanceAtMost host count link).2 =
      none := by
  induction count generalizing task link with
  | zero =>
      cases advanced : task.advance host link with
      | none => exact advanced
      | some after =>
          have nearer := advance_remaining advanced
          omega
  | succ count ih =>
      cases advanced : task.advance host link with
      | none => simp only [advanceAtMost, advanced]
      | some after =>
          have nearer := advance_remaining advanced
          simp only [advanceAtMost, advanced]
          exact ih (by omega) after.2

theorem fst_advance_at_most_ne_awaiting (count : Nat) {task : Task} (link : Link)
    (busy : task ≠ .awaiting) : (task.advanceAtMost host count link).1 ≠ .awaiting := by
  induction count generalizing task link with
  | zero => exact busy
  | succ count ih =>
      cases advanced : task.advance host link with
      | none => simpa only [advanceAtMost, advanced] using busy
      | some after =>
          simp only [advanceAtMost, advanced]
          exact ih after.2 (ne_awaiting_of_advance advanced)

end Running

def receipt? : Task → Option Receipt
  | finished receipt => some receipt
  | _ => none

end Task

namespace Link

/-- Lets one call run as far as it comes while nobody else does anything. A call asks the host for
one thing at most, a thread or the writing of bytes. One that would wait reports nothing. -/
def callOn (host : Host) (call : Call) (link : Link) : Option Receipt × Link :=
  let (task, later) := call.begin.advanceAtMost host call.begin.remaining link
  (task.receipt?, later)

def call (call : Call) (link : Link) : Option Receipt × Link := link.callOn .grants call

/-- Only the call that waits for the opening may come to nothing, as long as the opening does. -/
theorem call_on_eq_none_iff (host : Host) (link : Link) (call : Call) :
    (link.callOn host call).1 = none ↔ call = .awaitOpening ∧ link.signal.opening = none := by
  constructor
  · intro nothing
    have stops := Task.advance_at_most_of_remaining_le host (Nat.le_refl call.begin.remaining) link
    rcases (Task.advance_eq_none_iff _ _ _).mp stops with ⟨receipt, ended⟩ | ⟨waits, unsettled⟩
    · simp [callOn, ended, Task.receipt?] at nothing
    · have busy (acts : call.begin ≠ .awaiting) :=
        Task.fst_advance_at_most_ne_awaiting host call.begin.remaining link acts
      cases call with
      | awaitOpening =>
          refine ⟨rfl, ?_⟩
          cases opening : link.signal.opening with
          | none => rfl
          | some outcome =>
              simp [callOn, Call.begin, Task.remaining, Task.advanceAtMost, Task.advance,
                opening, Task.receipt?] at nothing
      | _ => exact absurd waits (busy (by simp [Call.begin]))
  · rintro ⟨rfl, unsettled⟩
    simp [callOn, Call.begin, Task.remaining, Task.advanceAtMost, Task.advance, unsettled,
      Task.receipt?]

end Link

end WatchLink
