import WatchLink.Link.Traffic
import WatchLink.Proofs.Exchange.Tickets

/-!
# What one move can be

`Task.Changes` and `Link.Works` list everything that one change of a call or of the worker can be,
each with the condition under which it is made. Whatever is proved about single moves goes through
these lists; nothing after this module looks into `Task.advance`, `Link.work` or `Link.hear`.
-/

namespace WatchLink

set_option autoImplicit false

namespace Task

/-- What one change of a call can be, on a link of which it has the lock. -/
inductive Changes (host : Host) (link : Link) : Task → Task → Link → Prop where
  | start (fresh : link.phase = .disconnected) (granted : host = .grants) :
      Changes host link .starting (.finished .done)
        { link with phase := .connecting, worker := .dialing }
  | startFails (fresh : link.phase = .disconnected) (reason : String) (written : Nat)
      (refused : host = .refuses reason written) :
      Changes host link .starting (.failing reason) { link with phase := .closed }
  | startLate (used : link.phase ≠ .disconnected) (cause : ClientError) :
      Changes host link .starting (.finished (.refused cause)) link
  | fireFailure (reason : String) :
      Changes host link (.failing reason) (.retiring reason)
        { link with signal := link.signal.fire (.failed link.settings.address reason) }
  | retire (reason : String) :
      Changes host link (.retiring reason) (.finished (.refused (.io reason)))
        (link.mapExchange Exchange.closeInboxes)
  | register (action : Action) (ticket : Nat) (exchange : Exchange)
      (registered : link.exchange.register = .ok (ticket, exchange)) :
      Changes host link (.registering action) (.writing action (some ticket))
        { link with exchange }
  | registerTwice (action : Action) (taken : link.exchange.awaiting ≠ none) :
      Changes host link (.registering action) (.finished (.refused .alreadyAwaiting)) link
  | nothingToWriteTo (action : Action) (ticket : Option Nat) (unwritable : link.writable = false) :
      Changes host link (.writing action ticket) (.explaining ticket) link
  | write (action : Action) (ticket : Option Nat) (bytes : Bytes) (writable : link.writable = true)
      (encoded : action.encode link.revision = .ok bytes) :
      Changes host link (.writing action ticket) (.finished (sentReceipt ticket))
        { link with sent := link.sent ++ bytes }
  | unsayable (action : Action) (ticket : Option Nat) (cause : ClientError)
      (writable : link.writable = true) (unsaid : action.encode link.revision = .error cause) :
      Changes host link (.writing action ticket) (refuse cause ticket) link
  | writeFails (action : Action) (ticket : Option Nat) (bytes : Bytes) (reason : String)
      (written : Nat) (writable : link.writable = true)
      (encoded : action.encode link.revision = .ok bytes)
      (refused : host = .refuses reason written) :
      Changes host link (.writing action ticket) (refuse (.io reason) ticket)
        { link with sent := link.sent ++ bytes.take written }
  | explain (ticket : Option Nat) :
      Changes host link (.explaining ticket)
        (refuse (if link.phase = .closed then .linkClosed else .notConnected) ticket) link
  | release (cause : ClientError) :
      Changes host link (.releasing cause) (.finished (.refused cause))
        (link.mapExchange Exchange.release)
  | subscribe :
      Changes host link .subscribing (.finished (.number link.exchange.inboxes.length))
        { link with exchange := link.exchange.subscribe.2 }
  | listen :
      Changes host link .listening (.finished (.number link.exchange.taps.length))
        { link with exchange := (link.exchange.tap none).2 }
  | learn (opening : Opening) (fired : link.signal.opening = some opening) :
      Changes host link .awaiting (.finished (receiptOf opening.result)) link
  | closeAgain (closed : link.phase = .closed) :
      Changes host link .closing (.finished .done) link
  | close (unclosed : link.phase ≠ .closed) :
      Changes host link .closing .hangingUp { link with phase := .closed }
  | hangUp (writable : link.writable = true) :
      Changes host link .hangingUp (.rejecting (receiptOf (takeLeave host link).1))
        { link with writable := false, sent := link.sent ++ (takeLeave host link).2 }
  | nothingToHangUp (unwritable : link.writable = false) :
      Changes host link .hangingUp (.rejecting .done) link
  | reject (receipt : Receipt) :
      Changes host link (.rejecting receipt) (.closingInboxes receipt)
        (link.mapExchange (Exchange.failPending .interrupted))
  | closeInboxes (receipt : Receipt) :
      Changes host link (.closingInboxes receipt) (.finished receipt)
        (link.mapExchange Exchange.closeInboxes)

theorem changes_of_advance {host : Host} {task next : Task} {link later : Link}
    (advanced : task.advance host link = some (next, later)) :
    Changes host link task next later := by
  cases task with
  | starting =>
      simp only [advance] at advanced
      split at advanced
      next fresh =>
        cases host with
        | grants =>
            cases advanced
            exact .start fresh rfl
        | refuses reason written =>
            cases advanced
            exact .startFails fresh reason written rfl
      all_goals
        cases advanced
        exact .startLate (by simp [*]) _
  | failing reason =>
      cases advanced
      exact .fireFailure reason
  | retiring reason =>
      cases advanced
      exact .retire reason
  | registering action =>
      simp only [advance] at advanced
      split at advanced
      next ticket exchange registered =>
        cases advanced
        exact .register action ticket exchange registered
      next cause refused =>
        obtain ⟨taken, same⟩ := Exchange.register_error refused
        cases advanced
        rw [same]
        exact .registerTwice action taken
  | writing action ticket =>
      simp only [advance] at advanced
      split at advanced
      next unwritable =>
        cases advanced
        exact .nothingToWriteTo action ticket (by simpa using unwritable)
      next writable =>
        have usable : link.writable = true := by simpa using writable
        split at advanced
        next bytes encoded =>
          cases advanced
          cases host with
          | grants => exact .write action ticket bytes usable encoded
          | refuses reason written =>
              exact .writeFails action ticket bytes reason written usable encoded rfl
        next cause refused =>
          cases advanced
          exact .unsayable action ticket cause usable refused
  | explaining ticket =>
      cases advanced
      exact .explain ticket
  | releasing cause =>
      cases advanced
      exact .release cause
  | subscribing =>
      cases advanced
      exact .subscribe
  | listening =>
      cases advanced
      exact .listen
  | awaiting =>
      simp only [advance, Option.map_eq_some_iff] at advanced
      obtain ⟨opening, fired, same⟩ := advanced
      cases same
      exact .learn opening fired
  | closing =>
      simp only [advance] at advanced
      split at advanced
      next closed =>
        cases advanced
        exact .closeAgain closed
      next unclosed =>
        cases advanced
        exact .close unclosed
  | hangingUp =>
      simp only [advance] at advanced
      split at advanced
      next writable =>
        cases advanced
        exact .hangUp writable
      next unwritable =>
        cases advanced
        exact .nothingToHangUp (by simpa using unwritable)
  | rejecting receipt =>
      cases advanced
      exact .reject receipt
  | closingInboxes receipt =>
      cases advanced
      exact .closeInboxes receipt
  | finished receipt => cases advanced

end Task

namespace Link

/-- What one change of the worker can be: by itself, or because of what the network does. -/
inductive Works (link : Link) : Option Arrival → Link → Prop where
  | dial (place : link.worker = .dialing) :
      Works link (some .accepted)
        { link with worker := .publishing, sent := link.sent ++ link.handshake }
  | fail (place : link.worker = .dialing) (reason : String) :
      Works link (some (.unreachable reason))
        { link with worker := .finishing .seal (some (.failed link.settings.address reason)) }
  | spoil (place : link.worker = .dialing) (reason : String) :
      Works link (some (.unusable reason)) { link with
        worker := .finishing .seal (some (.failed link.settings.address reason))
        sent := link.sent ++ link.handshake }
  | lose (place : link.worker = .reading) (arrival : Arrival)
      (ends : arrival = .ended ∨ ∃ reason, arrival = .broken reason) :
      Works link (some arrival) { link with worker := .finishing .seal none }
  | answer (place : link.worker = .reading) (bytes : Bytes) (nonempty : bytes ≠ [])
      (fits : bytes.length ≤ link.settings.readBufferSize) :
      Works link (some (.chunk bytes))
        { link.mapExchange (Exchange.answer bytes) with worker := .publishingChunk bytes }
  | forestall (place : link.worker = .publishing) (closed : link.phase = .closed) :
      Works link none { link with worker := .finishing .seal (some .closed) }
  | connect (place : link.worker = .publishing) (unclosed : link.phase ≠ .closed) :
      Works link none
        { link with phase := .connected, writable := true, worker := .announcing }
  | announce (place : link.worker = .announcing) :
      Works link none { link with signal := link.signal.fire .ready, worker := .reading }
  | publish (bytes : Bytes) (place : link.worker = .publishingChunk bytes) :
      Works link none
        { link.mapExchange (Exchange.publish bytes) with worker := .notifying bytes }
  | notify (bytes : Bytes) (place : link.worker = .notifying bytes) :
      Works link none { link.mapExchange (Exchange.notify bytes) with worker := .reading }
  | sever (opening : Option Opening) (place : link.worker = .finishing .seal opening) :
      Works link none { link with
        phase := .closed, writable := false, worker := .finishing .failPending opening }
  | reject (opening : Option Opening) (place : link.worker = .finishing .failPending opening) :
      Works link none { link.mapExchange (Exchange.failPending .interrupted) with
        worker := .finishing .closeInboxes opening }
  | closeInboxes (opening : Option Opening) (worker : Worker)
      (place : link.worker = .finishing .closeInboxes opening)
      (rest : worker = (opening.map Worker.signalling).getD .ended) :
      Works link none { link.mapExchange Exchange.closeInboxes with worker }
  | fire (opening : Opening) (place : link.worker = .signalling opening) :
      Works link none { link with signal := link.signal.fire opening, worker := .ended }

theorem works_of_work {link later : Link} (worked : link.work = some later) :
    Works link none later := by
  unfold work at worked
  split at worked
  next place =>
    split at worked
    next closed =>
      cases worked
      exact .forestall place closed
    next unclosed =>
      cases worked
      exact .connect place unclosed
  next place =>
    cases worked
    exact .announce place
  next bytes place =>
    cases worked
    exact .publish bytes place
  next bytes place =>
    cases worked
    exact .notify bytes place
  next opening place =>
    cases worked
    exact .sever opening place
  next opening place =>
    cases worked
    exact .reject opening place
  next opening place =>
    cases worked
    refine .closeInboxes opening _ place ?_
    cases opening <;> rfl
  next opening place =>
    cases worked
    exact .fire opening place
  all_goals cases worked

theorem works_of_hear {arrival : Arrival} {link later : Link}
    (heard : link.hear arrival = some later) : Works link (some arrival) later := by
  unfold hear at heard
  split at heard
  next place =>
    cases heard
    exact .dial place
  next reason place =>
    cases heard
    exact .fail place reason
  next reason place =>
    cases heard
    exact .spoil place reason
  next bytes place =>
    split at heard
    next => cases heard
    next taken =>
      rw [not_or, Nat.not_lt] at taken
      cases heard
      exact .answer place bytes taken.1 taken.2
  next place =>
    cases heard
    exact .lose place _ (.inl rfl)
  next reason place =>
    cases heard
    exact .lose place _ (.inr ⟨reason, rfl⟩)
  · cases heard

theorem hear_chunk_of_reading {link : Link} {bytes : Bytes} (reading : link.worker = .reading)
    (nonempty : bytes ≠ []) (fits : bytes.length ≤ link.settings.readBufferSize) :
    link.hear (.chunk bytes) =
      some { link.mapExchange (Exchange.answer bytes) with worker := .publishingChunk bytes } := by
  simp [hear, reading, nonempty, Nat.not_lt.mpr fits]

theorem work_of_announcing {link : Link} (announcing : link.worker = .announcing) :
    link.work = some { link with signal := link.signal.fire .ready, worker := .reading } := by
  simp [work, announcing]

theorem waits_of_work_eq_none {link : Link} (rested : link.work = none) :
    link.worker = .absent ∨ link.worker = .dialing ∨ link.worker = .reading ∨
      link.worker = .ended := by
  unfold work at rested
  split at rested
  next => split at rested <;> cases rested
  all_goals simp_all

end Link

namespace Traffic

inductive Moves (traffic : Traffic) : Move → Traffic → Prop where
  | begin (call : Call) :
      Moves traffic (.begin call) { traffic with calls := traffic.calls ++ [(call, call.begin)] }
  | advance (number : Nat) (host : Host) (call : Call) (task next : Task) (link : Link)
      (stands : traffic.calls[number]? = some (call, task))
      (change : Task.Changes host traffic.link task next link) :
      Moves traffic (.advance number host)
        { link, calls := traffic.calls.set number (call, next) }
  | work (link : Link) (change : Link.Works traffic.link none link) :
      Moves traffic .work { traffic with link }
  | hear (arrival : Arrival) (link : Link)
      (change : Link.Works traffic.link (some arrival) link) :
      Moves traffic (.arrive arrival) { traffic with link }

theorem moves_of_move {traffic later : Traffic} {move : Move}
    (moved : traffic.move move = some later) : Moves traffic move later := by
  cases move with
  | begin call =>
      cases moved
      exact .begin call
  | advance number host =>
      simp only [Traffic.move, Option.bind_eq_bind, Option.bind_eq_some_iff] at moved
      obtain ⟨⟨call, task⟩, stands, ⟨next, link⟩, advanced, same⟩ := moved
      cases same
      exact .advance number host call task next link stands (Task.changes_of_advance advanced)
  | work =>
      simp only [Traffic.move, Option.map_eq_some_iff] at moved
      obtain ⟨link, worked, same⟩ := moved
      cases same
      exact .work link (Link.works_of_work worked)
  | arrive arrival =>
      simp only [Traffic.move, Option.map_eq_some_iff] at moved
      obtain ⟨link, heard, same⟩ := moved
      cases same
      exact .hear arrival link (Link.works_of_hear heard)

@[simp] theorem moves_nil (traffic : Traffic) : traffic.moves [] = some traffic := rfl

theorem moves_cons_eq_some {traffic last : Traffic} {move : Move} {later : List Move}
    (ran : traffic.moves (move :: later) = some last) :
    ∃ after, traffic.move move = some after ∧ after.moves later = some last := by
  simpa only [moves, Option.bind_eq_some_iff] using ran

/-- Whatever every move keeps, every run keeps. -/
theorem moves_induction (keeps : Traffic → Prop)
    (step : ∀ {traffic later : Traffic} {move : Move}, keeps traffic → Moves traffic move later →
      keeps later)
    {traffic last : Traffic} {run : List Move} (ran : traffic.moves run = some last)
    (held : keeps traffic) : keeps last := by
  induction run generalizing traffic with
  | nil =>
      cases ran
      exact held
  | cons move rest ih =>
      obtain ⟨after, moved, finished⟩ := moves_cons_eq_some ran
      exact ih finished (step held (moves_of_move moved))

end Traffic

end WatchLink
