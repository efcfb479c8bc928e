import WatchLink.Proofs.Dealings.Steps

/-!
# A link that is closed

Whichever way a link comes to be closed, between two calls of somebody who is alone with it nothing
is left undone: no response is awaited, the inboxes end behind what is queued in them, and nothing
that anybody does later changes that. `Ended` collects it, and `Over` is the invariant behind it.
-/

namespace WatchLink

set_option autoImplicit false

namespace Inbox

/-- What so many looks for a single chunk find, one after another. -/
def looks : Nat → Inbox → List Taking
  | 0, _ => []
  | count + 1, inbox => inbox.take.1 :: looks count inbox.take.2

theorem looks_of_empty {inbox : Inbox} (detached : inbox.attached = false)
    (empty : inbox.feed.queued = []) (count : Nat) :
    inbox.looks count = List.replicate count .disconnected := by
  have nothing := inbox.feed.next_eq_none_iff.mpr empty
  induction count with
  | zero => rfl
  | succ count ih =>
      have found : inbox.take = (.disconnected, inbox) := by simp [take, nothing, detached]
      rw [looks, found, ih, List.replicate_succ]

/-- An inbox that nothing reaches any more yields what is queued in it, and then says that this was
all, as often as it is asked. -/
theorem looks_of_detached {inbox : Inbox} (detached : inbox.attached = false) (further : Nat) :
    inbox.looks (inbox.feed.queued.length + further) =
      inbox.feed.queued.map .chunk ++ List.replicate further .disconnected := by
  -- The induction is on what is queued; a look that finds a chunk leaves one chunk less.
  induction queued : inbox.feed.queued generalizing inbox with
  | nil => simpa using looks_of_empty detached queued further
  | cons chunk rest ih =>
      cases found : inbox.feed.next with
      | none =>
          rw [inbox.feed.next_eq_none_iff.mp found] at queued
          cases queued
      | some next =>
          obtain ⟨first, feed⟩ := next
          have taken : inbox.take = (.chunk first, { inbox with feed }) := by simp [take, found]
          obtain ⟨same, left⟩ := List.cons.inj (queued.symm.trans (Feed.next_some found).1)
          have onwards : looks (rest.length + further) { inbox with feed } = _ :=
            ih detached left.symm
          rw [List.length_cons, Nat.succ_add, looks, taken, onwards, same]
          rfl

end Inbox

namespace Exchange

def Spares (before after : Exchange) : Prop :=
  ∀ (number : Nat) (inbox : Inbox), before.inboxes[number]? = some inbox →
    inbox.attached = false → ∃ later, after.inboxes[number]? = some later ∧ later.feed = inbox.feed

theorem spares_of_same {before after : Exchange} (inboxes : after.inboxes = before.inboxes) :
    Spares before after :=
  fun _ inbox found _ => ⟨inbox, inboxes ▸ found, rfl⟩

theorem spares_of_map {before after : Exchange} {treat : Inbox → Inbox}
    (inboxes : after.inboxes = before.inboxes.map treat)
    (still : ∀ inbox : Inbox, inbox.attached = false → (treat inbox).feed = inbox.feed) :
    Spares before after :=
  fun number inbox found detached =>
    ⟨treat inbox, by rw [inboxes, List.getElem?_map, found]; rfl, still inbox detached⟩

theorem spares_publish (exchange : Exchange) (chunk : Bytes) :
    Spares exchange (exchange.publish chunk) :=
  spares_of_map rfl fun inbox detached => by simp [Inbox.accept, detached]

theorem spares_close_inboxes (exchange : Exchange) : Spares exchange exchange.closeInboxes :=
  spares_of_map rfl fun _ _ => rfl

theorem spares_subscribe (exchange : Exchange) : Spares exchange exchange.subscribe.2 := by
  intro number inbox found _
  have bound := (List.getElem?_eq_some_iff.mp found).1
  exact ⟨inbox, by rw [← found]; exact List.getElem?_append_left bound, rfl⟩

end Exchange

theorem Task.spares_of_changes {host : Host} {link later : Link} {task next : Task}
    (change : Task.Changes host link task next later) :
    Exchange.Spares link.exchange later.exchange := by
  cases change with
  | register action ticket exchange registered =>
      exact Exchange.spares_of_same (by rw [(Exchange.register_ok registered).2.2])
  | subscribe => exact Exchange.spares_subscribe _
  | release | reject => exact Exchange.spares_of_same (Exchange.inboxes_conclude _ _)
  | retire | closeInboxes => exact Exchange.spares_close_inboxes _
  | _ => exact Exchange.spares_of_same rfl

theorem Link.spares_of_works {cause : Option Arrival} {link later : Link}
    (change : Link.Works link cause later) : Exchange.Spares link.exchange later.exchange := by
  cases change with
  | answer | reject => exact Exchange.spares_of_same (Exchange.inboxes_conclude _ _)
  | publish bytes => exact Exchange.spares_publish _ bytes
  | closeInboxes => exact Exchange.spares_close_inboxes _
  | _ => exact Exchange.spares_of_same rfl

theorem Traffic.spares_of_moves {traffic later : Traffic} {move : Move}
    (moved : Moves traffic move later) :
    Exchange.Spares traffic.link.exchange later.link.exchange := by
  cases moved with
  | begin call => exact Exchange.spares_of_same rfl
  | advance number host call task next link stands change => exact Task.spares_of_changes change
  | work link change | hear arrival link change => exact Link.spares_of_works change

theorem Desk.join_wait_ne_would_block {desk : Desk} {ticket waiter : Nat}
    (waits : desk.waiters[waiter]?.join = some ticket)
    (come : desk.exchange.progress ticket ≠ .waiting) :
    (desk.joinWait waiter).1 ≠ .wouldBlock := by
  cases found : desk.exchange.progress ticket with
  | waiting => exact (come found).elim
  | _ => simp [joinWait, waits, Exchange.collect, found]

namespace Dealings

/-- What is left of a link that was found `closed`, in a later state. -/
structure Ended (closed last : Dealings) : Prop where
  phase : last.link.phase = .closed
  unwritable : last.link.writable = false
  shut : last.link.exchange.closed = true
  /-- Nobody who sent an action, and no thread that waits for them, waits any longer. -/
  resolved : ∀ ticket, last.traffic.Sent ticket →
    (last.desk.useTicket ticket .tryGet).1 ≠ .pending ∧
      (last.desk.useTicket ticket .wait).1 ≠ .wouldBlock ∧
      ∀ waiter, last.waiters[waiter]?.join = some ticket →
        (last.desk.joinWait waiter).1 ≠ .wouldBlock
  /-- What a ticket had come to it has come to for good, or somebody has been handed it since. -/
  settled : ∀ ticket, ticket < closed.link.exchange.tickets.length →
    last.link.exchange.progress ticket = closed.link.exchange.progress ticket ∨
      last.link.exchange.progress ticket = .spent
  /-- Nothing reaches an inbox any more, and nothing in it is lost or handed over twice. -/
  kept : ∀ (number : Nat) (inbox : Inbox), closed.link.exchange.inboxes[number]? = some inbox →
    ∃ later, last.link.exchange.inboxes[number]? = some later ∧
      later.feed.arrived = inbox.feed.arrived ∧ inbox.feed.received <+: later.feed.received
  ends : ∀ inbox ∈ last.link.exchange.inboxes, ∀ further,
    inbox.looks (inbox.feed.queued.length + further) =
      inbox.feed.queued.map .chunk ++ List.replicate further .disconnected
  subscribes : ∃ (number : Nat) (inbox : Inbox),
    (last.link.call .subscribe).1 = some (.number number) ∧
      (last.link.call .subscribe).2.exchange.inboxes[number]? = some inbox ∧
      ∀ count, inbox.looks count = List.replicate count .disconnected
  closes : last.link.call .close = (some .done, last.link)

/-- The invariant behind `Ended`. -/
structure Over (closed state : Dealings) : Prop where
  orderly : state.Orderly
  torn : state.traffic.TornDown
  settled : ∀ ticket, ticket < closed.link.exchange.tickets.length →
    ticket < state.link.exchange.tickets.length ∧
      state.link.exchange.progress ticket ≠ .waiting ∧
      (state.link.exchange.progress ticket = closed.link.exchange.progress ticket ∨
        state.link.exchange.progress ticket = .spent)
  kept : ∀ (number : Nat) (inbox : Inbox), closed.link.exchange.inboxes[number]? = some inbox →
    ∃ later, state.link.exchange.inboxes[number]? = some later ∧
      later.feed.arrived = inbox.feed.arrived ∧ inbox.feed.received <+: later.feed.received

section Over

variable {closed state later : Dealings} {step : Step}

theorem detached_of_over (past : Over closed state) {inbox : Inbox}
    (member : inbox ∈ state.link.exchange.inboxes) : inbox.attached = false :=
  past.orderly.course.sound.detached past.torn inbox member

theorem torn_down_of_steps (torn : state.traffic.TornDown) (stepped : Steps state step later) :
    later.traffic.TornDown := by
  cases stepped with
  | move move traffic moved => exact (Traffic.grows_of_moves moved).exchange.torn torn
  | hold step answer desk handles => exact (Desk.closed_of_handles handles).trans torn

theorem settled_of_steps (past : Over closed state) (stepped : Steps state step later)
    {ticket : Nat} (known : ticket < closed.link.exchange.tickets.length) :
    ticket < later.link.exchange.tickets.length ∧
      later.link.exchange.progress ticket ≠ .waiting ∧
      (later.link.exchange.progress ticket = closed.link.exchange.progress ticket ∨
        later.link.exchange.progress ticket = .spent) := by
  obtain ⟨present, come, settled⟩ := past.settled ticket known
  cases stepped with
  | move move traffic moved =>
      have keeps := (Traffic.grows_of_moves moved).exchange.keeps past.orderly.course.sound.coherent
      have same := keeps.2 ticket present come
      refine ⟨Nat.lt_of_lt_of_le present keeps.1, ?_⟩
      show traffic.link.exchange.progress ticket ≠ .waiting ∧
        (traffic.link.exchange.progress ticket = _ ∨ traffic.link.exchange.progress ticket = _)
      rw [same]
      exact ⟨come, settled⟩
  | hold step answer desk handles =>
      have handled := Desk.handled_of_handles handles
      refine ⟨handled.length.symm ▸ present, handled.ne_waiting come, ?_⟩
      rcases handled.progress ticket with same | ⟨_, spent⟩
      · exact settled.imp same.trans same.trans
      · exact .inr spent

theorem kept_of_steps (past : Over closed state) (stepped : Steps state step later) {number : Nat}
    {inbox : Inbox} (found : closed.link.exchange.inboxes[number]? = some inbox) :
    ∃ after, later.link.exchange.inboxes[number]? = some after ∧
      after.feed.arrived = inbox.feed.arrived ∧ inbox.feed.received <+: after.feed.received := by
  obtain ⟨before, foundBefore, arrived, received⟩ := past.kept number inbox found
  cases stepped with
  | move move traffic moved =>
      have detached := detached_of_over past (List.mem_of_getElem? foundBefore)
      obtain ⟨after, foundAfter, same⟩ :=
        Traffic.spares_of_moves moved number before foundBefore detached
      exact ⟨after, foundAfter, by rw [same, arrived], by rw [same]; exact received⟩
  | hold step answer desk handles =>
      obtain ⟨after, foundAfter, drawn⟩ := Desk.drawn_of_handles handles foundBefore
      refine ⟨after, foundAfter, ?_⟩
      rcases drawn with ⟨use, _, drawn⟩ | ⟨_, rfl⟩
      · refine ⟨drawn.arrived.trans arrived, ?_⟩
        rw [drawn.received]
        exact received.trans (List.prefix_append _ _)
      · exact ⟨arrived, received⟩

theorem over_of_steps (past : Over closed state) (stepped : Steps state step later) :
    Over closed later where
  orderly := orderly_of_steps past.orderly stepped
  torn := torn_down_of_steps past.torn stepped
  settled _ known := settled_of_steps past stepped known
  kept _ _ found := kept_of_steps past stepped found

theorem over_of_quiet (orderly : closed.Orderly) (quiet : closed.traffic.Quiet)
    (phase : closed.link.phase = .closed) : Over closed closed where
  orderly := orderly
  torn := Traffic.torn_down_of_quiet orderly.regular quiet phase
  settled ticket known := by
    refine ⟨known, ?_, .inl rfl⟩
    intro waiting
    have outstanding := (orderly.course.sound.coherent ticket).mp waiting
    have connected :=
      Traffic.connected_of_awaiting orderly.course.sound orderly.regular quiet outstanding
    cases phase.symm.trans connected
  kept _ inbox found := ⟨inbox, found, rfl, List.prefix_rfl⟩

theorem ended_of_over (past : Over closed state) : Ended closed state := by
  have settled := past.orderly.course.sound.torn past.torn
  have phase : state.link.phase = .closed := settled.1.1
  exact {
    phase := phase
    unwritable := settled.1.2
    shut := past.torn
    resolved := by
      intro ticket sent
      have come : state.desk.exchange.progress ticket ≠ .waiting := (settled.2 ticket sent).2
      refine ⟨Desk.try_get_ne_pending come, Desk.wait_ne_would_block come, ?_⟩
      intro waiter waits
      exact Desk.join_wait_ne_would_block waits come
    settled := fun ticket known => (past.settled ticket known).2.2
    kept := past.kept
    ends := fun inbox member further =>
      Inbox.looks_of_detached (detached_of_over past member) further
    subscribes := by
      have shut : state.link.exchange.closed = true := past.torn
      refine ⟨state.link.exchange.inboxes.length, { attached := false }, rfl, ?_,
        Inbox.looks_of_empty rfl rfl⟩
      show (state.link.exchange.inboxes ++ [{ attached := !state.link.exchange.closed }])[_]? = _
      rw [List.getElem?_concat_length, shut]
      rfl
    closes := by
      simp [Link.call, Link.callOn, Call.begin, Task.remaining, Task.advanceAtMost, Task.advance,
        phase, Task.receipt?] }

end Over

/-- Between two calls of somebody who is alone with a link, in every state that can come about, its
parts agree; and a link that is closed by then, in whichever way, is so for good and leaves nobody
waiting. -/
theorem teardown_of_reachable {state : Dealings} (reachable : state.Reachable)
    (quiet : state.traffic.Quiet) :
    state.link.Consistent ∧
      (state.link.phase = .closed → ∀ (steps : List Step) (last : Dealings),
        state.run steps = some last → Ended state last) := by
  refine ⟨consistent_of_reachable reachable quiet, ?_⟩
  intro phase steps last ran
  have past := over_of_quiet (orderly_of_reachable reachable) quiet phase
  exact ended_of_over (steps_induction (Over state) over_of_steps ran past)

/-- The server hung up on a link with an inbox: a first ping had been answered, a second one had
not, and nobody had looked at either. -/
def hungUp : Dealings where
  traffic :=
    { link :=
        { settings := {}
          phase := .closed
          exchange :=
            { revision := .v2
              tickets :=
                [{ progress := .resolved (Exchange.outcomeOf .v2 [0]) },
                  { progress := .resolved (.error .interrupted) }]
              inboxes := [{ feed := { arrived := [[0]] }, attached := false }]
              closed := true }
          signal := { opening := some .ready }
          worker := .ended
          sent := [0, 0] }
      calls :=
        [(.start, .finished .done), (.subscribe, .finished (.number 0)),
          (.act .ping, .finished (.number 0)), (.act .ping, .finished (.number 1))] }

theorem reachable_hung_up : hungUp.Reachable :=
  ⟨{}, Traffic.untouched.link,
    [.move (.begin .start), .move (.advance 0 .grants), .move (.arrive .accepted), .move .work,
      .move .work, .move (.begin .subscribe), .move (.advance 1 .grants),
      .move (.begin (.act .ping)), .move (.advance 2 .grants), .move (.advance 2 .grants),
      .move (.arrive (.chunk [0])), .move .work, .move .work, .move (.begin (.act .ping)),
      .move (.advance 3 .grants), .move (.advance 3 .grants), .move (.arrive .ended),
      .move .work, .move .work, .move .work], rfl, rfl⟩

def hungUpAndRead : Dealings :=
  hungUp.setDesk (((hungUp.desk.hold (.ticket 0 .wait)).2.hold (.inbox 0 .drain)).2)

theorem teardown_of_hung_up :
    hungUp.Reachable ∧ hungUp.traffic.Quiet ∧ hungUp.link.Consistent ∧
      hungUp.link.phase = .closed ∧
      hungUp.run [.hold (.ticket 0 .wait), .hold (.inbox 0 .drain)] = some hungUpAndRead ∧
      Ended hungUp hungUpAndRead := by
  have quiet : hungUp.traffic.Quiet :=
    Traffic.quiet_of_finished (by simp [hungUp, Task.receipt?]) rfl
  have ran : hungUp.run [.hold (.ticket 0 .wait), .hold (.inbox 0 .drain)] =
      some hungUpAndRead := rfl
  obtain ⟨consistent, teardown⟩ := teardown_of_reachable reachable_hung_up quiet
  exact ⟨reachable_hung_up, quiet, consistent, rfl, ran, teardown rfl _ _ ran⟩

end Dealings

end WatchLink
