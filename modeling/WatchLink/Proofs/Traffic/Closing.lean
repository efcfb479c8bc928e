import WatchLink.Proofs.Traffic.Runs
import WatchLink.Proofs.Traffic.WriteHalf

/-!
# What a closed link promises

A call that closes a link first makes the phase closed, then takes the write half away, rejects the
outstanding ticket and closes the inboxes. Another call that closes the same link ends as soon as it
sees the phase, and promises nothing but the phase. What the first one leaves behind it, and the
worker likewise, is `Aftermath`. It holds of every later state: a call that begins afterwards can no
longer be of any use, which is `Task.Doomed`.
-/

namespace WatchLink

set_option autoImplicit false

namespace Task

/-- A call that found the link not yet closed, closes it and has not ended. -/
def Departs : Task → Prop
  | hangingUp | rejecting _ | closingInboxes _ => True
  | _ => False

def GoesOn (link : Link) (task : Task) : Prop := ∀ host, (task.advance host link).isSome = true

/-- Where a call can stand that began on a link after it was torn down; inboxes opened since have
numbers from `opened` on. -/
def Doomed (opened : Nat) : Call → Task → Prop
  | .send action, task =>
      task = .writing action none ∨ task = .explaining none ∨
        task = .finished (.refused .linkClosed)
  | .act action, task =>
      task = .registering action ∨ (∃ ticket, task = .writing action (some ticket)) ∨
        (∃ ticket, task = .explaining (some ticket)) ∨ task = .releasing .linkClosed ∨
        task = .finished (.refused .linkClosed) ∨ task = .finished (.refused .alreadyAwaiting)
  | .subscribe, task =>
      task = .subscribing ∨ ∃ place, task = .finished (.number place) ∧ opened ≤ place
  | _, _ => True

theorem doomed_begin (opened : Nat) (call : Call) : Doomed opened call call.begin := by
  cases call <;> simp [Doomed, Call.begin]

theorem doomed_of_changes {opened : Nat} {host : Host} {link later : Link} {call : Call}
    {task next : Task} (closed : link.phase = .closed) (unwritable : link.writable = false)
    (present : opened ≤ link.exchange.inboxes.length) (doomed : Doomed opened call task)
    (change : Changes host link task next later) : Doomed opened call next := by
  cases call with
  | send action =>
      rcases doomed with rfl | rfl | rfl
      · cases change with
        | nothingToWriteTo => exact .inr (.inl rfl)
        | _ => simp_all
      · cases change with
        | explain => simp [Doomed, closed, refuse]
      · cases change
  | act action =>
      rcases doomed with rfl | ⟨ticket, rfl⟩ | ⟨ticket, rfl⟩ | rfl | rfl | rfl
      · cases change with
        | register _ ticket => exact .inr (.inl ⟨ticket, rfl⟩)
        | registerTwice => simp [Doomed]
      · cases change with
        | nothingToWriteTo => exact .inr (.inr (.inl ⟨ticket, rfl⟩))
        | _ => simp_all
      · cases change with
        | explain => simp [Doomed, closed, refuse]
      · cases change with
        | release => simp [Doomed]
      · cases change
      · cases change
  | subscribe =>
      rcases doomed with rfl | ⟨place, rfl, _⟩
      · cases change with
        | subscribe => exact .inr ⟨_, rfl, present⟩
      · cases change
  | _ => exact trivial

theorem goes_on_of_unended {link : Link} {task : Task} (patient : task ≠ .awaiting)
    (unended : task.receipt? = none) : task.GoesOn link := by
  intro host
  rw [Option.isSome_iff_ne_none]
  intro stuck
  rcases (advance_eq_none_iff host task link).mp stuck with ⟨receipt, ended⟩ | ⟨waits, _⟩
  · rw [ended] at unended
    cases unended
  · exact patient waits

theorem goes_on_of_doomed_send {opened : Nat} {link : Link} {action : Action} {task : Task}
    (doomed : Doomed opened (.send action) task) :
    task = .finished (.refused .linkClosed) ∨ task.GoesOn link := by
  rcases doomed with rfl | rfl | rfl
  · exact .inr (goes_on_of_unended (by simp) rfl)
  · exact .inr (goes_on_of_unended (by simp) rfl)
  · exact .inl rfl

theorem goes_on_of_doomed_act {opened : Nat} {link : Link} {action : Action} {task : Task}
    (doomed : Doomed opened (.act action) task) :
    task = .finished (.refused .linkClosed) ∨ task = .finished (.refused .alreadyAwaiting) ∨
      task.GoesOn link := by
  rcases doomed with rfl | ⟨ticket, rfl⟩ | ⟨ticket, rfl⟩ | rfl | rfl | rfl
  · exact .inr (.inr (goes_on_of_unended (by simp) rfl))
  · exact .inr (.inr (goes_on_of_unended (by simp) rfl))
  · exact .inr (.inr (goes_on_of_unended (by simp) rfl))
  · exact .inr (.inr (goes_on_of_unended (by simp) rfl))
  · exact .inl rfl
  · exact .inr (.inl rfl)

end Task

namespace Exchange

/-- An inbox that was opened after the inboxes were closed never holds anything. -/
def Shut (opened : Nat) (exchange : Exchange) : Prop :=
  ∀ (place : Nat) (inbox : Inbox), opened ≤ place → exchange.inboxes[place]? = some inbox →
    inbox = { attached := false }

theorem shut_of_length {opened : Nat} {exchange : Exchange}
    (all : exchange.inboxes.length ≤ opened) : exchange.Shut opened := by
  intro place inbox beyond found
  have bound := (List.getElem?_eq_some_iff.mp found).1
  omega

/-- A change that treats every inbox alike and leaves a detached empty one as it is. -/
def Treats (before after : Exchange) : Prop :=
  ∃ treat : Inbox → Inbox, after.inboxes = before.inboxes.map treat ∧
    treat { attached := false } = { attached := false }

theorem treats_of_same {before after : Exchange} (inboxes : after.inboxes = before.inboxes) :
    Treats before after :=
  ⟨id, by simp [inboxes], rfl⟩

theorem shut_of_treats {opened : Nat} {before after : Exchange} (shut : before.Shut opened)
    (treats : Treats before after) : after.Shut opened := by
  obtain ⟨treat, inboxes, still⟩ := treats
  intro place inbox beyond found
  rw [inboxes, List.getElem?_map, Option.map_eq_some_iff] at found
  obtain ⟨old, oldFound, same⟩ := found
  rw [← same, shut place old beyond oldFound, still]

theorem shut_subscribe {opened : Nat} {exchange : Exchange} (closed : exchange.closed = true)
    (shut : exchange.Shut opened) : exchange.subscribe.2.Shut opened := by
  intro place inbox beyond found
  simp only [subscribe, List.getElem?_append] at found
  split at found
  next before => exact shut place inbox beyond found
  next after =>
    obtain ⟨_, same⟩ := List.getElem?_eq_some_iff.mp found
    simpa [closed] using same.symm

end Exchange

namespace Traffic

variable {traffic later : Traffic} {move : Move}

/-! ## Until a teardown is complete -/

def TornDown (traffic : Traffic) : Prop := traffic.link.exchange.closed = true

/-- This call found the link not yet closed, and has ended. -/
def Closed (returned : Traffic) (closer : Nat) : Prop :=
  ∃ (found swapped : Traffic) (host : Host) (between : List Move) (receipt : Receipt),
    found.Reachable ∧ found.calls[closer]? = some (.close, .closing) ∧
      found.link.phase ≠ .closed ∧ found.move (.advance closer host) = some swapped ∧
      swapped.moves between = some returned ∧
      returned.calls[closer]? = some (.close, .finished receipt)

def Finished (returned : Traffic) : Prop :=
  returned.link.worker = .ended ∨ ∃ opening, returned.link.worker = .signalling opening

def Closing (closer : Nat) (traffic : Traffic) : Prop :=
  (∃ task, traffic.calls[closer]? = some (.close, task) ∧ task.Departs) ∨ traffic.TornDown

theorem closing_of_moves {closer : Nat} (closing : Closing closer traffic)
    (moved : Moves traffic move later) : Closing closer later := by
  rcases closing with ⟨task, stands, departs⟩ | torn
  · rcases next_standing_of_moves moved stands with stood | ⟨host, next, _, stood, change⟩
    · exact .inl ⟨task, stood, departs⟩
    · generalize same : later.link = link at change
      cases change with
      | hangUp writable => exact .inl ⟨_, stood, trivial⟩
      | nothingToHangUp unwritable => exact .inl ⟨_, stood, trivial⟩
      | reject receipt => exact .inl ⟨_, stood, trivial⟩
      | closeInboxes receipt =>
          right
          rw [TornDown, same]
          rfl
      | _ => exact departs.elim
  · exact .inr ((grows_of_moves moved).exchange.torn torn)

theorem torn_down_of_closed {returned : Traffic} {closer : Nat}
    (closed : Closed returned closer) : returned.TornDown := by
  obtain ⟨found, swapped, host, between, receipt, _, stands, unclosed, moved, ran, ended⟩ := closed
  have departed : Closing closer swapped := by
    have present := (List.getElem?_eq_some_iff.mp stands).1
    cases moves_of_move moved with
    | advance _ _ call task next link stood change =>
        rw [stands] at stood
        cases stood
        cases change with
        | closeAgain closed => exact (unclosed closed).elim
        | close => exact .inl ⟨.hangingUp, List.getElem?_set_self present, trivial⟩
  rcases moves_induction (Closing closer) closing_of_moves ran departed with
    ⟨task, stands, departs⟩ | torn
  · rw [ended] at stands
    cases stands
    exact departs.elim
  · exact torn

theorem torn_down_of_finished (sound : traffic.Sound) (finished : traffic.Finished) :
    traffic.TornDown := by
  have working := sound.working
  rcases finished with ended | ⟨opening, signalling⟩
  · simp only [WorkerGrounded, ended] at working
    exact working
  · simp only [WorkerGrounded, signalling] at working
    exact working

/-! ## Afterwards -/

/-- What a torn down link promises in a state `last` after the state `returned`. -/
structure Aftermath (returned last : Traffic) : Prop where
  /-- Nobody who sent an action waits for what comes of it. -/
  resolved : ∀ (ticket : Nat) (desk : Desk), last.Sent ticket → desk.exchange = last.link.exchange →
    (desk.useTicket ticket .tryGet).1 ≠ .pending ∧ (desk.useTicket ticket .wait).1 ≠ .wouldBlock
  /-- Behind what is queued in an inbox comes its end. -/
  disconnected : ∀ inbox ∈ last.link.exchange.inboxes,
    inbox.takeAll.1 = inbox.feed.queued.map .chunk ++ [.disconnected]
  /-- An inbox that was asked for since has nothing before its end. -/
  subscribes : ∀ (number : Nat) (receipt : Receipt), returned.calls.length ≤ number →
    last.calls[number]? = some (.subscribe, .finished receipt) →
    ∃ place inbox, receipt = .number place ∧ last.link.exchange.inboxes[place]? = some inbox ∧
      inbox.takeAll.1 = [.disconnected]
  sends : ∀ (number : Nat) (action : Action) (task : Task), returned.calls.length ≤ number →
    last.calls[number]? = some (.send action, task) →
    task = .finished (.refused .linkClosed) ∨ task.GoesOn last.link
  acts : ∀ (number : Nat) (action : Action) (task : Task), returned.calls.length ≤ number →
    last.calls[number]? = some (.act action, task) →
    task = .finished (.refused .linkClosed) ∨ task = .finished (.refused .alreadyAwaiting) ∨
      task.GoesOn last.link
  /-- The slot is only taken by another action that has been registered and not yet given up. -/
  refuses : ∀ (number : Nat) (host : Host) (action : Action) (after : Traffic),
    last.calls[number]? = some (.act action, .registering action) →
    last.move (.advance number host) = some after →
    after.receipt? number = some (.refused .alreadyAwaiting) →
    ∃ (other : Nat) (begun : Action) (task : Task), other ≠ number ∧
      last.calls[other]? = some (.act begun, task) ∧ task.Undecided
  silent : ∀ (number : Nat) (host : Host) (after : Traffic),
    last.move (.advance number host) = some after → after.link.sent = last.link.sent

/-- The invariant behind `Aftermath`, from the moment at which so many calls had been begun and so
many inboxes opened. -/
structure Doom (begun opened : Nat) (traffic : Traffic) : Prop where
  sound : traffic.Sound
  torn : traffic.TornDown
  present : opened ≤ traffic.link.exchange.inboxes.length
  shut : traffic.link.exchange.Shut opened
  known : begun ≤ traffic.calls.length
  doomed : ∀ (number : Nat) (call : Call) (task : Task), begun ≤ number →
    traffic.calls[number]? = some (call, task) → task.Doomed opened call
  made : ∀ (number place : Nat), begun ≤ number →
    traffic.calls[number]? = some (.subscribe, .finished (.number place)) →
    place < traffic.link.exchange.inboxes.length

theorem doom_of_torn_down (sound : traffic.Sound) (torn : traffic.TornDown) :
    Doom traffic.calls.length traffic.link.exchange.inboxes.length traffic where
  sound := sound
  torn := torn
  present := Nat.le_refl _
  shut := Exchange.shut_of_length (Nat.le_refl _)
  known := Nat.le_refl _
  doomed number call task late stands := by
    have bound := (List.getElem?_eq_some_iff.mp stands).1
    omega
  made number place late stands := by
    have bound := (List.getElem?_eq_some_iff.mp stands).1
    omega

theorem inboxes_of_changes {host : Host} {link changed : Link} {task next : Task}
    (change : Task.Changes host link task next changed) :
    Exchange.Treats link.exchange changed.exchange ∨
      changed.exchange = link.exchange.subscribe.2 := by
  cases change with
  | register action ticket exchange registered =>
      have same := (Exchange.register_ok registered).2.2
      exact .inl (Exchange.treats_of_same (by rw [same]))
  | subscribe => exact .inr rfl
  | release | reject => exact .inl (Exchange.treats_of_same (Exchange.inboxes_conclude _ _))
  | retire | closeInboxes => exact .inl ⟨Inbox.detach, rfl, rfl⟩
  | _ => exact .inl (Exchange.treats_of_same rfl)

theorem inboxes_of_works {cause : Option Arrival} {link changed : Link}
    (change : Link.Works link cause changed) :
    Exchange.Treats link.exchange changed.exchange := by
  cases change with
  | answer | reject => exact Exchange.treats_of_same (Exchange.inboxes_conclude _ _)
  | publish bytes => exact ⟨Inbox.accept bytes, rfl, rfl⟩
  | closeInboxes => exact ⟨Inbox.detach, rfl, rfl⟩
  | _ => exact Exchange.treats_of_same rfl

theorem inboxes_of_moves (moved : Moves traffic move later) :
    Exchange.Treats traffic.link.exchange later.link.exchange ∨
      later.link.exchange = traffic.link.exchange.subscribe.2 := by
  cases moved with
  | begin call => exact .inl (Exchange.treats_of_same rfl)
  | advance number host call task next link stands change => exact inboxes_of_changes change
  | work link change | hear arrival link change => exact .inl (inboxes_of_works change)

theorem length_inboxes_of_moves (moved : Moves traffic move later) :
    traffic.link.exchange.inboxes.length ≤ later.link.exchange.inboxes.length := by
  rcases inboxes_of_moves moved with ⟨treat, inboxes, _⟩ | subscribed
  · simp [inboxes]
  · simp [subscribed, Exchange.subscribe]

theorem shut_of_moves {opened : Nat} (torn : traffic.TornDown)
    (shut : traffic.link.exchange.Shut opened) (moved : Moves traffic move later) :
    later.link.exchange.Shut opened := by
  rcases inboxes_of_moves moved with treats | subscribed
  · exact Exchange.shut_of_treats shut treats
  · rw [subscribed]
    exact Exchange.shut_subscribe torn shut

theorem doomed_of_moves {begun opened : Nat} (doom : Doom begun opened traffic)
    (moved : Moves traffic move later) {number : Nat} {call : Call} {next : Task}
    (late : begun ≤ number) (stands : later.calls[number]? = some (call, next)) :
    next.Doomed opened call := by
  rcases standing_of_moves moved stands with stood | ⟨_, _, began⟩ | ⟨host, task, _, stood, change⟩
  · exact doom.doomed number call next late stood
  · rw [began]
    exact Task.doomed_begin opened call
  · obtain ⟨closed, unwritable⟩ := (doom.sound.torn doom.torn).1
    exact Task.doomed_of_changes closed unwritable doom.present
      (doom.doomed number call task late stood) change

theorem made_of_moves {begun opened : Nat} (doom : Doom begun opened traffic)
    (moved : Moves traffic move later) {number place : Nat} (late : begun ≤ number)
    (stands : later.calls[number]? = some (.subscribe, .finished (.number place))) :
    place < later.link.exchange.inboxes.length := by
  rcases standing_of_moves moved stands with stood | ⟨_, _, began⟩ | ⟨host, task, _, stood, change⟩
  · exact Nat.lt_of_lt_of_le (doom.made number place late stood) (length_inboxes_of_moves moved)
  · cases began
  · have doomed := doom.doomed number _ task late stood
    generalize same : later.link = link at change
    rcases doomed with rfl | ⟨other, rfl, _⟩
    · cases change with
      | subscribe => simp [Exchange.subscribe]
    · cases change

theorem doom_of_moves {begun opened : Nat} (doom : Doom begun opened traffic)
    (moved : Moves traffic move later) : Doom begun opened later where
  sound := sound_of_moves doom.sound moved
  torn := (grows_of_moves moved).exchange.torn doom.torn
  present := Nat.le_trans doom.present (length_inboxes_of_moves moved)
  shut := shut_of_moves doom.torn doom.shut moved
  known := Nat.le_trans doom.known (length_calls_of_moves moved)
  doomed _ _ _ late stands := doomed_of_moves doom moved late stands
  made _ _ late stands := made_of_moves doom moved late stands

theorem undecided_of_awaiting (sound : traffic.Sound) (torn : traffic.TornDown) {ticket : Nat}
    (outstanding : traffic.link.exchange.awaiting = some ticket) :
    ∃ (number : Nat) (begun : Action) (task : Task),
      traffic.calls[number]? = some (.act begun, task) ∧ task.Undecided := by
  obtain ⟨number, begun, task, stands, holds⟩ := sound.owned ticket outstanding
  refine ⟨number, begun, task, stands, ?_⟩
  have reaches := sound.reaches number _ task stands
  rcases holds with claims | ⟨cause, rfl⟩
  · cases task with
    | writing action held | explaining held =>
        obtain rfl : held = some ticket := claims
        exact trivial
    | finished receipt =>
        cases receipt with
        | number made =>
            obtain rfl : made = ticket := Option.some.inj claims
            have come := ((sound.torn torn).2 made ⟨number, begun, stands⟩).2
            exact (come ((sound.coherent made).mpr outstanding)).elim
        | _ => cases claims
    | _ => cases claims
  · exact trivial

theorem sent_of_advance (severed : traffic.Severed) {number : Nat} {host : Host}
    (moved : Moves traffic (.advance number host) later) :
    later.link.sent = traffic.link.sent := by
  have unwritable := severed.2
  cases moved with
  | advance _ _ call task next link stands change =>
      cases change with
      | write | writeFails | hangUp => simp_all
      | _ => rfl

theorem aftermath_of_doom {returned last : Traffic}
    (doom : Doom returned.calls.length returned.link.exchange.inboxes.length last) :
    Aftermath returned last where
  resolved ticket desk sent same := by
    have come : desk.exchange.progress ticket ≠ .waiting := by
      rw [same]
      exact ((doom.sound.torn doom.torn).2 ticket sent).2
    exact ⟨Desk.try_get_ne_pending come, Desk.wait_ne_would_block come⟩
  disconnected inbox member := by
    simp [Inbox.takeAll, doom.sound.detached doom.torn inbox member]
  subscribes number receipt late stands := by
    rcases doom.doomed number _ _ late stands with subscribing | ⟨place, ended, beyond⟩
    · cases subscribing
    · cases ended
      have bound := doom.made number place late stands
      have found := List.getElem?_eq_getElem bound
      refine ⟨place, _, rfl, found, ?_⟩
      rw [doom.shut place _ beyond found]
      rfl
  sends number action task late stands :=
    Task.goes_on_of_doomed_send (doom.doomed number _ task late stands)
  acts number action task late stands :=
    Task.goes_on_of_doomed_act (doom.doomed number _ task late stands)
  refuses number host action after stands moved refused := by
    cases moves_of_move moved with
    | advance _ _ call task next link stood change =>
        rw [stands] at stood
        cases stood
        have present := (List.getElem?_eq_some_iff.mp stands).1
        simp only [receipt?, List.getElem?_set_self present, Option.bind_some] at refused
        cases change with
        | register => cases refused
        | registerTwice _ taken =>
            obtain ⟨ticket, outstanding⟩ := Option.ne_none_iff_exists'.mp taken
            obtain ⟨other, begun, task, found, undecided⟩ :=
              undecided_of_awaiting doom.sound doom.torn outstanding
            refine ⟨other, begun, task, ?_, found, undecided⟩
            rintro rfl
            rw [stands] at found
            cases found
            exact undecided
  silent number host after moved :=
    sent_of_advance (doom.sound.torn doom.torn).1 (moves_of_move moved)

/-- Once any call that closes a link has returned, the link is closed. Once the one that found it
not yet closed has returned, or the worker has torn the link down, nothing that was sent is left
waiting, inboxes end, and later calls come to nothing: they are told that the link is closed, or,
where another action holds the slot at that moment, that an answer is awaited already. -/
theorem aftermath_of_close {returned last : Traffic} {run : List Move}
    (reachable : returned.Reachable) (ran : returned.moves run = some last) :
    (∀ (closer : Nat) (receipt : Receipt),
      returned.calls[closer]? = some (.close, .finished receipt) → last.link.phase = .closed) ∧
    ((∃ closer, Closed returned closer) ∨ returned.Finished → Aftermath returned last) := by
  have sound := sound_of_reachable reachable
  constructor
  · intro closer receipt stands
    have closed := sound.grounded closer _ _ stands rfl
    exact moves_induction (fun state => state.link.phase = .closed)
      (fun held moved => (grows_of_moves moved).closed held) ran closed
  · intro closedOrFinished
    have torn : returned.TornDown := by
      rcases closedOrFinished with ⟨closer, closed⟩ | finished
      · exact torn_down_of_closed closed
      · exact torn_down_of_finished sound finished
    exact aftermath_of_doom
      (moves_induction (Doom _ _) doom_of_moves ran (doom_of_torn_down sound torn))

def untouched : Traffic := { link := { settings := {}, exchange := { revision := .v2 } } }

def closedUntouched : Traffic where
  link := { untouched.link with phase := .closed, exchange := { revision := .v2, closed := true } }
  calls := [(.close, .finished .done)]

theorem reachable_closed_untouched : closedUntouched.Reachable :=
  ⟨{}, untouched.link,
    [.begin .close, .advance 0 .grants, .advance 0 .grants, .advance 0 .grants,
      .advance 0 .grants], rfl, rfl⟩

/-- A ping was sent and an inbox opened, and a call that closes the link was begun. -/
def closingInTime : Traffic where
  link :=
    { settings := {}
      phase := .connected
      writable := true
      exchange := { revision := .v2, awaiting := some 0, tickets := [{}], inboxes := [{}] }
      signal := { opening := some .ready }
      worker := .reading
      sent := [0] }
  calls :=
    [(.start, .finished .done), (.subscribe, .finished (.number 0)),
      (.act .ping, .finished (.number 0)), (.close, .closing)]

/-- That call has made the phase closed, and a second one has returned because of that. -/
def closedInHaste : Traffic where
  link := { closingInTime.link with phase := .closed }
  calls := closingInTime.calls.set 3 (.close, .hangingUp) ++ [(.close, .finished .done)]

theorem reachable_closing_in_time : closingInTime.Reachable :=
  ⟨{}, untouched.link,
    [.begin .start, .advance 0 .grants, .arrive .accepted, .work, .work, .begin .subscribe,
      .advance 1 .grants, .begin (.act .ping), .advance 2 .grants, .advance 2 .grants,
      .begin .close], rfl, rfl⟩

theorem reachable_closed_in_haste : closedInHaste.Reachable := by
  have ran : closingInTime.moves [.advance 3 .grants, .begin .close, .advance 4 .grants] =
    some closedInHaste := rfl
  exact reachable_of_run reachable_closing_in_time ran

def closedAtLast : Traffic where
  link :=
    { closedInHaste.link with
      writable := false
      exchange :=
        { revision := .v2
          closed := true
          tickets := [{ progress := .resolved (.error .interrupted) }]
          inboxes := [{ attached := false }] } }
  calls := closedInHaste.calls.set 3 (.close, .finished .done)

/-- A message was to be sent since, an inbox was asked for, and two actions were begun, the second
while the first had its ticket. -/
def triedAgain : Traffic where
  link :=
    { closedAtLast.link with
      exchange :=
        { revision := .v2
          closed := true
          tickets := [{ progress := .resolved (.error .interrupted) }, { progress := .spent }]
          inboxes := [{ attached := false }, { attached := false }] } }
  calls :=
    closedAtLast.calls ++
      [(.send .ping, .finished (.refused .linkClosed)), (.subscribe, .finished (.number 1)),
        (.act .ping, .finished (.refused .linkClosed)),
        (.act .ping, .finished (.refused .alreadyAwaiting))]

theorem reachable_closed_at_last : closedAtLast.Reachable := by
  have ran : closedInHaste.moves [.advance 3 .grants, .advance 3 .grants, .advance 3 .grants] =
    some closedAtLast := rfl
  exact reachable_of_run reachable_closed_in_haste ran

theorem closed_closed_at_last : Closed closedAtLast 3 :=
  ⟨closingInTime,
    { link := { closingInTime.link with phase := .closed }
      calls := closingInTime.calls.set 3 (.close, .hangingUp) },
    .grants,
    [.begin .close, .advance 4 .grants, .advance 3 .grants, .advance 3 .grants, .advance 3 .grants],
    .done, reachable_closing_in_time, rfl, by simp [closingInTime], rfl, rfl, rfl⟩

theorem aftermath_of_closed_at_last :
    closedAtLast.moves
        [.begin (.send .ping), .advance 5 .grants, .advance 5 .grants, .begin .subscribe,
          .advance 6 .grants, .begin (.act .ping), .advance 7 .grants, .begin (.act .ping),
          .advance 8 .grants, .advance 7 .grants, .advance 7 .grants, .advance 7 .grants] =
      some triedAgain ∧
    triedAgain.Sent 0 ∧ triedAgain.link.phase = .closed ∧ Aftermath closedAtLast triedAgain := by
  have ran : closedAtLast.moves
      [.begin (.send .ping), .advance 5 .grants, .advance 5 .grants, .begin .subscribe,
        .advance 6 .grants, .begin (.act .ping), .advance 7 .grants, .begin (.act .ping),
        .advance 8 .grants, .advance 7 .grants, .advance 7 .grants, .advance 7 .grants] =
      some triedAgain := rfl
  obtain ⟨closed, aftermath⟩ := aftermath_of_close reachable_closed_at_last ran
  exact ⟨ran, ⟨2, .ping, rfl⟩, closed 3 .done rfl, aftermath (.inl ⟨3, closed_closed_at_last⟩)⟩

/-- Once a call that closes the link has returned: if it was not the one that found the link open,
a sent action may still wait, an inbox may still be attached and another action may still be sent;
and even if it was, a later action may be told that an answer is awaited already. -/
theorem close_returned_too_early :
    (closedInHaste.Reachable ∧ closedInHaste.receipt? 4 = some .done ∧ closedInHaste.Sent 0 ∧
      closedInHaste.link.exchange.progress 0 = .waiting ∧
      closedInHaste.link.exchange.inboxes.map (fun inbox => inbox.takeAll.1) = [[.empty]] ∧
      (closedInHaste.moves [.begin (.send .ping), .advance 5 .grants]).map
        (fun last => (last.receipt? 5, last.link.sent)) = some (some .done, [0, 0])) ∧
    (closedUntouched.Reachable ∧ closedUntouched.receipt? 0 = some .done ∧
      (closedUntouched.moves
        [.begin (.act .ping), .begin (.act .ping), .advance 1 .grants, .advance 2 .grants]).map
        (fun last => last.receipt? 2) = some (some (.refused .alreadyAwaiting))) := by
  have sent : closedInHaste.Sent 0 := ⟨2, .ping, rfl⟩
  exact ⟨⟨reachable_closed_in_haste, rfl, sent, rfl, rfl, rfl⟩,
    ⟨reachable_closed_untouched, rfl, rfl⟩⟩

end Traffic

end WatchLink
