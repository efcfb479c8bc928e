import WatchLink.Proofs.Traffic.Changes

/-!
# What holds in every order of moves

`Sound` is the invariant of a link under traffic. Besides the agreement of the slot with the tickets
it says what is known wherever a call or the worker stands: a link whose write half is to be taken
away is closed, and once the outstanding ticket has been rejected after that, every action that was
ever sent has come to something. `sound_of_reachable` is the induction over all runs.
-/

namespace WatchLink

set_option autoImplicit false

namespace Call

def Reaches : Call → Task → Prop
  | start, .starting | start, .failing _ | start, .retiring _ => True
  | send action, .writing written ticket => written = action ∧ ticket = none
  | send _, .explaining ticket => ticket = none
  | act action, .registering begun => begun = action
  | act action, .writing written ticket => written = action ∧ ticket.isSome
  | act _, .explaining ticket => ticket.isSome
  | act _, .releasing _ => True
  | subscribe, .subscribing | listen, .listening | awaitOpening, .awaiting => True
  | close, .closing | close, .hangingUp => True
  | close, .rejecting receipt | close, .closingInboxes receipt => ∀ number, receipt ≠ .number number
  | act _, .finished receipt => receipt ≠ .done
  | subscribe, .finished receipt | listen, .finished receipt => ∃ number, receipt = .number number
  | start, .finished receipt | send _, .finished receipt | awaitOpening, .finished receipt
  | close, .finished receipt => ∀ number, receipt ≠ .number number
  | _, _ => False

theorem reaches_begin (call : Call) : call.Reaches call.begin := by
  cases call <;> simp [begin, Reaches]

theorem receipt_of_ne_number (result : Except ClientError Unit) (number : Nat) :
    Task.receiptOf result ≠ .number number := by
  cases result <;> simp [Task.receiptOf]

theorem reaches_of_changes {call : Call} {host : Host} {link later : Link} {task next : Task}
    (reaches : call.Reaches task) (change : Task.Changes host link task next later) :
    call.Reaches next := by
  cases change <;> cases call <;>
    simp_all [Reaches, Task.sentReceipt, receipt_of_ne_number]
  -- What remains are the calls that write: what they report depends on the ticket they hold.
  case write.act action ticket _ _ _ _ =>
    obtain ⟨number, held⟩ := Option.isSome_iff_exists.mp reaches.2
    simp [held]
  case unsayable.send | writeFails.send => simp [Task.refuse]
  case unsayable.act | writeFails.act =>
    obtain ⟨number, held⟩ := Option.isSome_iff_exists.mp reaches.2
    simp [held, Task.refuse]
  case explain.send => simp [Task.refuse]
  case explain.act =>
    obtain ⟨number, held⟩ := Option.isSome_iff_exists.mp reaches
    simp [held, Task.refuse]

end Call

namespace Link

/-- What every change of a link keeps, whoever makes it. -/
structure Grows (before after : Link) : Prop where
  settings : after.settings = before.settings
  exchange : Exchange.Grows before.exchange after.exchange
  closed : before.phase = .closed → after.phase = .closed
  severed : before.phase = .closed → before.writable = false → after.writable = false
  unopened : after.phase = .disconnected →
    before.phase = .disconnected ∧ (before.writable = false → after.writable = false)

theorem grows_map_exchange (link : Link) {change : Exchange → Exchange}
    (grows : Exchange.Grows link.exchange (change link.exchange)) :
    Grows link (link.mapExchange change) where
  settings := rfl
  exchange := grows
  closed held := held
  severed _ held := held
  unopened held := ⟨held, id⟩

end Link

theorem Task.grows_of_changes {host : Host} {link later : Link} {task next : Task}
    (change : Task.Changes host link task next later) : Link.Grows link later := by
  have same := Exchange.grows_refl link.exchange
  have unopened : ∀ phase : Phase, phase = .disconnected →
      phase = .disconnected ∧ (link.writable = false → link.writable = false) :=
    fun _ held => ⟨held, id⟩
  cases change with
  | start fresh => exact ⟨rfl, same, by simp [fresh], fun _ held => held, by simp⟩
  | startFails fresh reason => exact ⟨rfl, same, by simp, fun _ held => held, by simp⟩
  | register action ticket exchange registered =>
      exact ⟨rfl, Exchange.grows_of_register registered, id, fun _ held => held, unopened _⟩
  | release cause => exact Link.grows_map_exchange link (Exchange.grows_release _)
  | subscribe => exact ⟨rfl, Exchange.grows_subscribe _, id, fun _ held => held, unopened _⟩
  | listen => exact ⟨rfl, Exchange.grows_tap _ none, id, fun _ held => held, unopened _⟩
  | close unclosed => exact ⟨rfl, same, by simp, fun _ held => held, by simp⟩
  | hangUp writable => exact ⟨rfl, same, id, by simp, fun held => ⟨held, by simp⟩⟩
  | reject receipt => exact Link.grows_map_exchange link (Exchange.grows_fail_pending _ _)
  | retire reason => exact Link.grows_map_exchange link (Exchange.grows_close_inboxes _)
  | closeInboxes receipt => exact Link.grows_map_exchange link (Exchange.grows_close_inboxes _)
  | _ => exact ⟨rfl, same, id, fun _ held => held, unopened _⟩

theorem Link.grows_of_works {cause : Option Arrival} {link later : Link}
    (change : Link.Works link cause later) : Link.Grows link later := by
  have same := Exchange.grows_refl link.exchange
  have unopened : ∀ phase : Phase, phase = .disconnected →
      phase = .disconnected ∧ (link.writable = false → link.writable = false) :=
    fun _ held => ⟨held, id⟩
  cases change with
  | answer place bytes =>
      exact ⟨rfl, Exchange.grows_answer _ bytes, id, fun _ held => held, unopened _⟩
  | connect place unclosed => exact ⟨rfl, same, by simp [unclosed], by simp [unclosed], by simp⟩
  | publish bytes place =>
      exact ⟨rfl, Exchange.grows_publish _ bytes, id, fun _ held => held, unopened _⟩
  | notify bytes place =>
      exact ⟨rfl, Exchange.grows_notify _ bytes, id, fun _ held => held, unopened _⟩
  | sever opening place => exact ⟨rfl, same, by simp, by simp, by simp⟩
  | reject opening place =>
      exact ⟨rfl, Exchange.grows_fail_pending _ _, id, fun _ held => held, unopened _⟩
  | closeInboxes opening worker place rest =>
      exact ⟨rfl, Exchange.grows_close_inboxes _, id, fun _ held => held, unopened _⟩
  | _ => exact ⟨rfl, same, id, fun _ held => held, unopened _⟩

def Task.ticket? : Task → Option Nat
  | writing _ ticket | explaining ticket => ticket
  | finished (.number ticket) => some ticket
  | _ => none

/-- A call that has registered a ticket and has not ended. -/
def Task.Undecided : Task → Prop
  | writing _ (some _) | explaining (some _) | releasing _ => True
  | _ => False

namespace Traffic

variable {traffic later : Traffic} {move : Move}

theorem grows_of_moves (moved : Moves traffic move later) : Link.Grows traffic.link later.link := by
  cases moved with
  | begin call => exact ⟨rfl, Exchange.grows_refl _, id, fun _ held => held, fun held => ⟨held, id⟩⟩
  | advance number host call task next link stands change => exact Task.grows_of_changes change
  | work link change => exact Link.grows_of_works change
  | hear arrival link change => exact Link.grows_of_works change

/-- A call stands after a move where it stood before, or the move began it, or the move was its own
change. -/
theorem standing_of_moves (moved : Moves traffic move later) {number : Nat} {call : Call}
    {next : Task} (stands : later.calls[number]? = some (call, next)) :
    traffic.calls[number]? = some (call, next) ∨
      (move = .begin call ∧ number = traffic.calls.length ∧ next = call.begin) ∨
      ∃ host task, move = .advance number host ∧ traffic.calls[number]? = some (call, task) ∧
        Task.Changes host traffic.link task next later.link := by
  cases moved with
  | begin begun =>
      rcases Nat.lt_trichotomy number traffic.calls.length with before | same | beyond
      · left
        simpa [List.getElem?_append_left before] using stands
      · right
        left
        subst same
        simp only [List.getElem?_concat_length, Option.some.injEq, Prod.mk.injEq] at stands
        obtain ⟨sameCall, sameTask⟩ := stands
        subst sameCall
        exact ⟨rfl, rfl, sameTask.symm⟩
      · have missing : (traffic.calls ++ [(begun, begun.begin)])[number]? = none :=
          List.getElem?_eq_none (by simp; omega)
        rw [missing] at stands
        cases stands
  | advance moving host mover task changed link stood change =>
      by_cases same : moving = number
      · subst same
        have present := (List.getElem?_eq_some_iff.mp stood).1
        simp only [List.getElem?_set_self present, Option.some.injEq, Prod.mk.injEq] at stands
        obtain ⟨sameCall, sameTask⟩ := stands
        subst sameCall sameTask
        exact .inr (.inr ⟨host, task, rfl, stood, change⟩)
      · left
        simpa [List.getElem?_set_ne same] using stands
  | work link change => exact .inl stands
  | hear arrival link change => exact .inl stands

theorem next_standing_of_moves (moved : Moves traffic move later) {number : Nat} {call : Call}
    {task : Task} (stands : traffic.calls[number]? = some (call, task)) :
    later.calls[number]? = some (call, task) ∨
      ∃ host next, move = .advance number host ∧ later.calls[number]? = some (call, next) ∧
        Task.Changes host traffic.link task next later.link := by
  have present := (List.getElem?_eq_some_iff.mp stands).1
  cases moved with
  | begin begun =>
      left
      simpa [List.getElem?_append_left present] using stands
  | advance moving host mover task changed link stood change =>
      by_cases same : moving = number
      · subst same
        rw [stood] at stands
        cases stands
        exact .inr ⟨host, changed, rfl, List.getElem?_set_self present, change⟩
      · left
        simpa [List.getElem?_set_ne same] using stands
  | work link change => exact .inl stands
  | hear arrival link change => exact .inl stands

theorem length_calls_of_moves (moved : Moves traffic move later) :
    traffic.calls.length ≤ later.calls.length := by
  cases moved <;> simp

/-! ## The invariant -/

/-- An action was sent for which this ticket was handed out. -/
def Sent (traffic : Traffic) (ticket : Nat) : Prop :=
  ∃ (number : Nat) (action : Action),
    traffic.calls[number]? = some (.act action, .finished (.number ticket))

/-- The link is closed and nothing can be written any more. -/
def Severed (traffic : Traffic) : Prop :=
  traffic.link.phase = .closed ∧ traffic.link.writable = false

/-- Nothing can be written any more, and everything that was sent has come to something. -/
def Settled (traffic : Traffic) : Prop :=
  traffic.Severed ∧ ∀ ticket, traffic.Sent ticket →
    ticket < traffic.link.exchange.tickets.length ∧
      traffic.link.exchange.progress ticket ≠ .waiting

def Grounded (traffic : Traffic) (call : Call) : Task → Prop
  | .hangingUp => traffic.link.phase = .closed
  | .rejecting _ => traffic.Severed
  | .failing _ | .retiring _ | .closingInboxes _ => traffic.Settled
  | .finished _ => call = .close → traffic.link.phase = .closed
  | _ => True

def WorkerGrounded (traffic : Traffic) : Prop :=
  match traffic.link.worker with
  | .finishing .failPending _ => traffic.Severed
  | .finishing .closeInboxes _ => traffic.Settled
  | .signalling _ | .ended => traffic.link.exchange.closed = true
  | _ => True

/-- The outstanding ticket is that of an action that was sent, or whose call has yet to end. -/
def Owned (traffic : Traffic) : Prop :=
  ∀ ticket, traffic.link.exchange.awaiting = some ticket →
    ∃ (number : Nat) (action : Action) (task : Task),
      traffic.calls[number]? = some (.act action, task) ∧
        (task.ticket? = some ticket ∨ ∃ cause, task = .releasing cause)

structure Sound (traffic : Traffic) : Prop where
  spoken : traffic.link.exchange.revision = traffic.link.revision
  coherent : traffic.link.exchange.Coherent
  detached : traffic.link.exchange.Detached
  torn : traffic.link.exchange.closed = true → traffic.Settled
  unopened : traffic.link.phase = .disconnected →
    traffic.link.writable = false ∧ ∀ ticket, ¬traffic.Sent ticket
  reaches : ∀ (number : Nat) (call : Call) (task : Task),
    traffic.calls[number]? = some (call, task) → call.Reaches task
  grounded : ∀ (number : Nat) (call : Call) (task : Task),
    traffic.calls[number]? = some (call, task) → traffic.Grounded call task
  claimed : ∀ (number : Nat) (action : Action) (task : Task) (ticket : Nat),
    traffic.calls[number]? = some (.act action, task) → task.ticket? = some ticket →
      ticket < traffic.link.exchange.tickets.length
  working : traffic.WorkerGrounded
  owned : traffic.Owned

/-! ## Stable facts -/

theorem severed_of_moves (severed : traffic.Severed) (moved : Moves traffic move later) :
    later.Severed := by
  have grows := grows_of_moves moved
  exact ⟨grows.closed severed.1, grows.severed severed.1 severed.2⟩

theorem sends_of_changes {host : Host} {link changed : Link} {action : Action} {task : Task}
    {ticket : Nat} (reaches : (Call.act action).Reaches task)
    (change : Task.Changes host link task (.finished (.number ticket)) changed) :
    link.writable = true ∧ task = .writing action (some ticket) := by
  generalize reported : Task.finished (.number ticket) = next at change
  cases change with
  | write written held bytes writable encoded =>
      obtain ⟨sameAction, _⟩ := reaches
      cases held with
      | none => cases reported
      | some claimed =>
          cases reported
          exact ⟨writable, by rw [sameAction]⟩
  | unsayable written held | writeFails written held => cases held <;> cases reported
  | explain held => cases held <;> cases reported
  | subscribe => exact reaches.elim
  | listen => exact reaches.elim
  | learn opening fired => exact reaches.elim
  | closeInboxes receipt => exact reaches.elim
  | _ => cases reported

theorem sent_of_moves (sound : traffic.Sound) (moved : Moves traffic move later) {ticket : Nat}
    (sent : later.Sent ticket) : traffic.Sent ticket ∨ traffic.link.writable = true := by
  obtain ⟨number, action, stands⟩ := sent
  rcases standing_of_moves moved stands with stood | ⟨_, _, begun⟩ | ⟨host, task, _, stood, change⟩
  · exact .inl ⟨number, action, stood⟩
  · cases begun
  · exact .inr (sends_of_changes (sound.reaches number _ task stood) change).1

theorem settled_of_moves (sound : traffic.Sound) (settled : traffic.Settled)
    (moved : Moves traffic move later) : later.Settled := by
  have grows := grows_of_moves moved
  refine ⟨severed_of_moves settled.1 moved, ?_⟩
  intro ticket sent
  rcases sent_of_moves sound moved sent with before | writable
  · obtain ⟨present, come⟩ := settled.2 ticket before
    have keeps := grows.exchange.keeps sound.coherent
    refine ⟨Nat.lt_of_lt_of_le present keeps.1, ?_⟩
    rw [keeps.2 ticket present come]
    exact come
  · rw [settled.1.2] at writable
    cases writable

/-- Once nothing can be written, rejecting the outstanding ticket settles all that was sent. -/
theorem settled_of_fail_pending (sound : traffic.Sound) (severed : traffic.Severed)
    (moved : Moves traffic move later)
    (rejected : later.link.exchange = traffic.link.exchange.failPending .interrupted) :
    later.Settled := by
  refine ⟨severed_of_moves severed moved, ?_⟩
  intro ticket sent
  rcases sent_of_moves sound moved sent with ⟨number, action, stood⟩ | writable
  · rw [rejected]
    refine ⟨?_, Exchange.progress_ne_waiting_of_conclude sound.coherent (by simp) ticket⟩
    have present := sound.claimed number action _ ticket stood rfl
    simpa [Exchange.failPending] using present
  · rw [severed.2] at writable
    cases writable

theorem grounded_of_changes (sound : traffic.Sound) (moved : Moves traffic move later)
    {number : Nat} {call : Call} {host : Host} {task next : Task}
    (stood : traffic.calls[number]? = some (call, task))
    (change : Task.Changes host traffic.link task next later.link) : later.Grounded call next := by
  have reaches := sound.reaches number call task stood
  have grounded := sound.grounded number call task stood
  generalize same : later.link = link at change
  cases change with
  | startFails fresh reason =>
      obtain ⟨unwritable, unsent⟩ := sound.unopened fresh
      refine ⟨⟨by simp [same], by simp [same, unwritable]⟩, ?_⟩
      intro ticket sent
      rcases sent_of_moves sound moved sent with before | writable
      · exact (unsent ticket before).elim
      · rw [unwritable] at writable
        cases writable
  | fireFailure reason => exact settled_of_moves sound grounded moved
  | close unclosed => exact congrArg Link.phase same
  | hangUp writable =>
      have closed : traffic.link.phase = .closed := grounded
      exact ⟨by simp [same, closed], by simp [same]⟩
  | nothingToHangUp unwritable =>
      have closed : traffic.link.phase = .closed := grounded
      exact ⟨by simp [same, closed], by simp [same, unwritable]⟩
  | reject receipt =>
      exact settled_of_fail_pending sound grounded moved (congrArg Link.exchange same)
  | closeAgain closed =>
      intro _
      rw [same, closed]
  | closeInboxes receipt =>
      intro _
      exact (settled_of_moves sound grounded moved).1.1
  | register | nothingToWriteTo => exact trivial
  | unsayable written held | writeFails written held | explain held =>
      cases held with
      | none =>
          intro isClose
          rw [isClose] at reaches
          exact reaches.elim
      | some claimed => exact trivial
  | start | startLate | retire | registerTwice | write | release | subscribe | listen | learn =>
      intro isClose
      rw [isClose] at reaches
      exact reaches.elim

theorem grounded_of_moves (sound : traffic.Sound) (moved : Moves traffic move later)
    {number : Nat} {call : Call} {next : Task}
    (stands : later.calls[number]? = some (call, next)) : later.Grounded call next := by
  rcases standing_of_moves moved stands with stood | ⟨_, _, begun⟩ | ⟨host, task, _, stood, change⟩
  · have grounded := sound.grounded number call next stood
    have grows := grows_of_moves moved
    cases next with
    | hangingUp => exact grows.closed grounded
    | rejecting receipt => exact severed_of_moves grounded moved
    | failing | retiring | closingInboxes => exact settled_of_moves sound grounded moved
    | finished receipt =>
        intro isClose
        exact grows.closed (grounded isClose)
    | _ => exact trivial
  · subst begun
    cases call <;> exact trivial
  · exact grounded_of_changes sound moved stood change

theorem claimed_of_moves (sound : traffic.Sound) (moved : Moves traffic move later)
    {number ticket : Nat} {action : Action} {next : Task}
    (stands : later.calls[number]? = some (.act action, next))
    (claims : next.ticket? = some ticket) : ticket < later.link.exchange.tickets.length := by
  have grows := (grows_of_moves moved).exchange.keeps sound.coherent
  rcases standing_of_moves moved stands with stood | ⟨_, _, begun⟩ | ⟨host, task, _, stood, change⟩
  · exact Nat.lt_of_lt_of_le (sound.claimed number action next ticket stood claims) grows.1
  · subst begun
    cases claims
  · have reaches := sound.reaches number _ task stood
    have earlier : ∀ held, task.ticket? = some held →
        held < later.link.exchange.tickets.length := fun held claimed =>
      Nat.lt_of_lt_of_le (sound.claimed number action task held stood claimed) grows.1
    generalize later.link = link at change earlier
    cases change with
    | register begun made exchange registered =>
        cases claims
        have number := (Exchange.register_ok registered).2.1
        have length := Exchange.length_tickets_of_register registered
        show ticket < exchange.tickets.length
        omega
    | nothingToWriteTo => exact earlier ticket claims
    | write written held =>
        cases held with
        | none => cases claims
        | some made =>
            cases claims
            exact earlier ticket rfl
    | unsayable written held | writeFails written held | explain held =>
        cases held <;> cases claims
    | subscribe | listen | closeInboxes | learn => exact reaches.elim
    | _ => cases claims

theorem closed_of_changes {host : Host} {link changed : Link} {task next : Task}
    (change : Task.Changes host link task next changed) (torn : changed.exchange.closed = true) :
    link.exchange.closed = true ∨ (∃ reason, task = .retiring reason) ∨
      ∃ receipt, task = .closingInboxes receipt := by
  cases change with
  | retire reason => exact .inr (.inl ⟨reason, rfl⟩)
  | closeInboxes receipt => exact .inr (.inr ⟨receipt, rfl⟩)
  | register action ticket exchange registered =>
      left
      rw [(Exchange.register_ok registered).2.2] at torn
      exact torn
  | release | reject =>
      left
      simpa [Link.mapExchange, Exchange.release, Exchange.failPending] using torn
  | _ => exact .inl torn

theorem closed_of_works {link changed : Link} {cause : Option Arrival}
    (change : Link.Works link cause changed) (torn : changed.exchange.closed = true) :
    link.exchange.closed = true ∨ ∃ opening, link.worker = .finishing .closeInboxes opening := by
  cases change with
  | closeInboxes opening worker place rest => exact .inr ⟨opening, place⟩
  | answer | reject =>
      left
      simpa [Link.mapExchange, Exchange.answer, Exchange.failPending] using torn
  | _ => exact .inl torn

theorem torn_of_works (sound : traffic.Sound) {changed : Link} {cause : Option Arrival}
    (change : Link.Works traffic.link cause changed) (torn : changed.exchange.closed = true) :
    traffic.Settled := by
  rcases closed_of_works change torn with before | ⟨opening, place⟩
  · exact sound.torn before
  · have working := sound.working
    simpa only [WorkerGrounded, place] using working

theorem torn_of_moves (sound : traffic.Sound) (moved : Moves traffic move later)
    (torn : later.link.exchange.closed = true) : later.Settled := by
  apply settled_of_moves sound _ moved
  cases moved with
  | begin call => exact sound.torn torn
  | advance number host call task next link stands change =>
      have grounded := sound.grounded number call task stands
      rcases closed_of_changes change torn with before | ⟨reason, place⟩ | ⟨receipt, place⟩
      · exact sound.torn before
      · rw [place] at grounded
        exact grounded
      · rw [place] at grounded
        exact grounded
  | work link change => exact torn_of_works sound change torn
  | hear arrival link change => exact torn_of_works sound change torn

theorem worker_of_changes {host : Host} {link changed : Link} {task next : Task}
    (change : Task.Changes host link task next changed) :
    changed.worker = link.worker ∨ (link.phase = .disconnected ∧ changed.worker = .dialing) := by
  cases change with
  | start fresh => exact .inr ⟨fresh, rfl⟩
  | _ => exact .inl rfl

theorem working_of_works (sound : traffic.Sound) {changed : Link} {cause : Option Arrival}
    (change : Link.Works traffic.link cause changed)
    (moved : Moves traffic move { traffic with link := changed }) :
    WorkerGrounded { traffic with link := changed } := by
  cases change with
  | sever opening place => exact ⟨rfl, rfl⟩
  | reject opening place =>
      have severed : traffic.Severed := by
        have working := sound.working
        simpa only [WorkerGrounded, place] using working
      exact settled_of_fail_pending sound severed moved rfl
  | closeInboxes opening worker place rest =>
      cases opening <;>
        simp [WorkerGrounded, rest, Link.mapExchange, Exchange.closeInboxes]
  | fire opening place =>
      have working := sound.working
      simpa only [WorkerGrounded, place] using working
  | _ => exact trivial

theorem working_of_same_worker (sound : traffic.Sound) (moved : Moves traffic move later)
    (same : later.link.worker = traffic.link.worker) : later.WorkerGrounded := by
  have working := sound.working
  unfold WorkerGrounded at working ⊢
  rw [same]
  split at working
  · exact severed_of_moves working moved
  · exact settled_of_moves sound working moved
  · exact (grows_of_moves moved).exchange.torn working
  · exact (grows_of_moves moved).exchange.torn working
  · exact trivial

theorem working_of_moves (sound : traffic.Sound) (moved : Moves traffic move later) :
    later.WorkerGrounded := by
  cases moved with
  | begin call => exact working_of_same_worker sound (.begin call) rfl
  | advance number host call task next link stands change =>
      rcases worker_of_changes change with same | ⟨_, dialing⟩
      · exact working_of_same_worker sound (.advance number host call task next link stands change)
          same
      · simp [WorkerGrounded, dialing]
  | work link change => exact working_of_works sound change (.work link change)
  | hear arrival link change => exact working_of_works sound change (.hear arrival link change)

theorem reaches_of_moves (sound : traffic.Sound) (moved : Moves traffic move later) {number : Nat}
    {call : Call} {next : Task} (stands : later.calls[number]? = some (call, next)) :
    call.Reaches next := by
  rcases standing_of_moves moved stands with stood | ⟨_, _, begun⟩ | ⟨host, task, _, stood, change⟩
  · exact sound.reaches number call next stood
  · rw [begun]
    exact call.reaches_begin
  · exact Call.reaches_of_changes (sound.reaches number call task stood) change

theorem awaiting_of_works {cause : Option Arrival} {link changed : Link}
    (change : Link.Works link cause changed) :
    changed.exchange.awaiting = link.exchange.awaiting ∨ changed.exchange.awaiting = none := by
  cases change with
  | answer | reject =>
      right
      simp [Link.mapExchange, Exchange.answer, Exchange.failPending]
  | _ => exact .inl rfl

/-- The slot changes hands only where it is given up and where a call registers. -/
theorem awaiting_of_changes {host : Host} {link changed : Link} {task next : Task}
    (change : Task.Changes host link task next changed) :
    (changed.exchange.awaiting = link.exchange.awaiting ∧ ∀ cause, task ≠ .releasing cause) ∨
      changed.exchange.awaiting = none ∨
      ∃ action ticket, task = .registering action ∧ next = .writing action (some ticket) ∧
        changed.exchange.awaiting = some ticket := by
  cases change with
  | register action ticket exchange registered =>
      exact .inr (.inr ⟨action, ticket, rfl, rfl, Exchange.awaiting_of_register registered⟩)
  | release | reject =>
      right
      left
      simp [Link.mapExchange, Exchange.release, Exchange.failPending]
  | _ => exact .inl ⟨rfl, by simp⟩

theorem ticket_of_changes {host : Host} {link changed : Link} {task next : Task} {ticket : Nat}
    (change : Task.Changes host link task next changed) (claims : task.ticket? = some ticket) :
    next.ticket? = some ticket ∨ ∃ cause, next = .releasing cause := by
  cases change with
  | nothingToWriteTo action held => exact .inl claims
  | write action held =>
      obtain rfl : held = some ticket := claims
      exact .inl rfl
  | unsayable action held | writeFails action held | explain held =>
      obtain rfl : held = some ticket := claims
      exact .inr ⟨_, rfl⟩
  | _ => cases claims

/-- A move that leaves the slot as it is leaves its owner where it was, or brings it nearer to its
end. -/
theorem owned_of_same_slot (sound : traffic.Sound) (moved : Moves traffic move later)
    (same : later.link.exchange.awaiting = traffic.link.exchange.awaiting)
    (unreleased : ∀ number host call task, move = .advance number host →
      traffic.calls[number]? = some (call, task) → ∀ cause, task ≠ .releasing cause) :
    later.Owned := by
  intro ticket outstanding
  obtain ⟨number, action, task, stands, holds⟩ := sound.owned ticket (same ▸ outstanding)
  rcases next_standing_of_moves moved stands with stood | ⟨host, next, own, stood, change⟩
  · exact ⟨number, action, task, stood, holds⟩
  · rcases holds with claims | ⟨cause, releasing⟩
    · exact ⟨number, action, next, stood, ticket_of_changes change claims⟩
    · exact (unreleased number host _ task own stands cause releasing).elim

theorem owned_of_moves (sound : traffic.Sound) (moved : Moves traffic move later) :
    later.Owned := by
  have vacant : later.link.exchange.awaiting = none → later.Owned := by
    intro none ticket outstanding
    rw [none] at outstanding
    cases outstanding
  cases moved with
  | begin call => exact owned_of_same_slot sound (.begin call) rfl (by simp)
  | advance number host call task next link stands change =>
      rcases awaiting_of_changes change with ⟨same, unreleased⟩ | none |
        ⟨action, made, place, written, taken⟩
      · apply owned_of_same_slot sound (.advance number host call task next link stands change) same
        intro moving _ mover stood own standing
        cases own
        rw [stands] at standing
        cases standing
        exact unreleased
      · exact vacant none
      · intro ticket outstanding
        have sameTicket : made = ticket := Option.some.inj (taken.symm.trans outstanding)
        have reaches := sound.reaches number call task stands
        have present := (List.getElem?_eq_some_iff.mp stands).1
        rw [place] at reaches
        cases call with
        | act begun =>
            refine ⟨number, begun, next, List.getElem?_set_self present, .inl ?_⟩
            rw [written, sameTicket]
            rfl
        | _ => exact reaches.elim
  | work link change =>
      rcases awaiting_of_works change with same | none
      · exact owned_of_same_slot sound (.work link change) same (by simp)
      · exact vacant none
  | hear arrival link change =>
      rcases awaiting_of_works change with same | none
      · exact owned_of_same_slot sound (.hear arrival link change) same (by simp)
      · exact vacant none

theorem sound_of_moves (sound : traffic.Sound) (moved : Moves traffic move later) :
    later.Sound := by
  have grows := grows_of_moves moved
  exact {
    spoken := by
      rw [grows.exchange.revision, sound.spoken, Link.revision, Link.revision, grows.settings]
    coherent := grows.exchange.coherent sound.coherent
    detached := grows.exchange.detached sound.detached
    torn := torn_of_moves sound moved
    unopened := by
      intro fresh
      obtain ⟨before, still⟩ := grows.unopened fresh
      obtain ⟨unwritable, unsent⟩ := sound.unopened before
      refine ⟨still unwritable, ?_⟩
      intro ticket sent
      rcases sent_of_moves sound moved sent with earlier | writable
      · exact unsent ticket earlier
      · rw [unwritable] at writable
        cases writable
    reaches := fun _ _ _ stands => reaches_of_moves sound moved stands
    grounded := fun _ _ _ stands => grounded_of_moves sound moved stands
    claimed := fun _ _ _ _ stands claims => claimed_of_moves sound moved stands claims
    working := working_of_moves sound moved
    owned := owned_of_moves sound moved }

theorem link_of_create {settings : Settings} {link : Link}
    (created : Link.create settings = .ok link) :
    link = { settings, exchange := { revision := settings.revision } } := by
  unfold Link.create at created
  cases valid : settings.validate with
  | error cause =>
      rw [valid] at created
      cases created
  | ok =>
      rw [valid] at created
      cases created
      rfl

theorem sound_of_create {settings : Settings} {link : Link}
    (created : Link.create settings = .ok link) : ({ link } : Traffic).Sound := by
  have fresh := link_of_create created
  have nobody : ∀ (number : Nat) (call : Call) (task : Task),
      ([] : List (Call × Task))[number]? = some (call, task) → False := by simp
  exact {
    spoken := by rw [fresh]; rfl
    coherent := by
      rw [fresh]
      exact Exchange.fresh_coherent settings.revision
    detached := by simp [fresh, Exchange.Detached]
    torn := by simp [fresh]
    unopened := fun _ => ⟨by rw [fresh], fun _ ⟨number, _, stands⟩ => nobody number _ _ stands⟩
    reaches := fun number call task stands => (nobody number call task stands).elim
    grounded := fun number call task stands => (nobody number call task stands).elim
    claimed := fun number action task _ stands => (nobody number _ task stands).elim
    working := by simp [fresh, WorkerGrounded]
    owned := by simp [fresh, Owned] }

/-- A state of a link that somebody created, after any moves. -/
def Reachable (traffic : Traffic) : Prop :=
  ∃ (settings : Settings) (link : Link) (run : List Move),
    Link.create settings = .ok link ∧ ({ link } : Traffic).moves run = some traffic

theorem sound_of_run (sound : traffic.Sound) {run : List Move}
    (ran : traffic.moves run = some later) : later.Sound :=
  moves_induction Sound sound_of_moves ran sound

theorem severed_of_run (severed : traffic.Severed) {run : List Move}
    (ran : traffic.moves run = some later) : later.Severed :=
  moves_induction Severed severed_of_moves ran severed

theorem settled_of_run (sound : traffic.Sound) (settled : traffic.Settled) {run : List Move}
    (ran : traffic.moves run = some later) : later.Settled :=
  (moves_induction (fun state => state.Sound ∧ state.Settled)
    (fun held moved => ⟨sound_of_moves held.1 moved, settled_of_moves held.1 held.2 moved⟩)
    ran ⟨sound, settled⟩).2

theorem sound_of_reachable (reachable : traffic.Reachable) : traffic.Sound := by
  obtain ⟨settings, link, run, created, ran⟩ := reachable
  exact sound_of_run (sound_of_create created) ran

end Traffic

end WatchLink
