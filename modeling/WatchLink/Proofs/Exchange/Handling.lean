import WatchLink.Proofs.Exchange.Tickets

/-!
# What a holder does to the tickets

`Desk.Handles` lists everything that one step of a holder can be. A look that comes too early
changes nothing, a look at a ticket of which something has come takes it, and nothing that a holder
does changes which ticket is outstanding.
-/

namespace WatchLink

set_option autoImplicit false

namespace Exchange

/-! ## What a holder leaves alone -/

@[simp] theorem progress_let_go (exchange : Exchange) (ticket other : Nat) :
    (exchange.letGo ticket).progress other = exchange.progress other := by
  by_cases same : ticket = other
  · subst same
    cases found : exchange.tickets[ticket]? <;> simp [letGo, progress, found]
  · simp [letGo, progress, same]

@[simp] theorem length_tickets_let_go (exchange : Exchange) (ticket : Nat) :
    (exchange.letGo ticket).tickets.length = exchange.tickets.length := by
  simp [letGo]

theorem holds_let_go (exchange : Exchange) (ticket other : Nat) :
    (exchange.letGo ticket).holds other = (exchange.holds other && decide (ticket ≠ other)) := by
  by_cases same : ticket = other
  · subst same
    cases found : exchange.tickets[ticket]? <;> simp [letGo, holds, found]
  · simp [letGo, holds, same]

@[simp] theorem holds_set_progress (exchange : Exchange) (ticket other : Nat)
    (progress : Progress) :
    (exchange.setProgress ticket progress).holds other = exchange.holds other := by
  by_cases same : ticket = other
  · subst same
    cases found : exchange.tickets[ticket]? <;> simp [setProgress, holds, found]
  · simp [setProgress, holds, same]

@[simp] theorem holds_conclude (exchange : Exchange) (progress : Progress) (ticket : Nat) :
    (exchange.conclude progress).holds ticket = exchange.holds ticket := by
  unfold conclude
  split
  · rfl
  next outstanding _ => exact holds_set_progress exchange outstanding ticket progress

structure Alike (before after : Exchange) : Prop where
  revision : after.revision = before.revision
  awaiting : after.awaiting = before.awaiting
  tickets : after.tickets = before.tickets

theorem alike_use_inbox (exchange : Exchange) (number : Nat) (use : InboxUse) :
    Alike exchange (exchange.useInbox number use).2 := by
  unfold useInbox
  split
  · exact ⟨rfl, rfl, rfl⟩
  · split
    · exact ⟨rfl, rfl, rfl⟩
    · cases use <;> exact ⟨rfl, rfl, rfl⟩

theorem alike_take_log (exchange : Exchange) (number : Nat) :
    Alike exchange (exchange.takeLog number).2 := by
  unfold takeLog
  split <;> exact ⟨rfl, rfl, rfl⟩

/-! ## Looks -/

theorem collect_of_waiting {exchange : Exchange} {ticket : Nat}
    (waiting : exchange.progress ticket = .waiting) :
    exchange.collect ticket = (none, exchange) := by
  simp [collect, waiting]

theorem waiting_of_collect {exchange later : Exchange} {ticket : Nat}
    (looked : exchange.collect ticket = (none, later)) : exchange.progress ticket = .waiting := by
  have due := collect_fst exchange ticket
  rw [looked] at due
  exact (Progress.due_eq_none_iff _).mp due.symm

structure Collected (ticket : Nat) (before after : Exchange) : Prop where
  revision : after.revision = before.revision
  awaiting : after.awaiting = before.awaiting
  length : after.tickets.length = before.tickets.length
  spent : after.progress ticket = .spent
  others : ∀ other, ticket ≠ other → after.progress other = before.progress other
  held : ∀ other, after.holds other = before.holds other

theorem collected_of_collect {exchange after : Exchange} {ticket : Nat} {outcome : Outcome}
    (collected : exchange.collect ticket = (some outcome, after)) :
    Collected ticket exchange after ∧ (exchange.progress ticket).due = some outcome := by
  unfold collect at collected
  split at collected
  · cases collected
  next found resolved =>
    cases collected
    have present := lt_length_of_progress_ne_spent (by rw [resolved]; simp)
    refine ⟨⟨rfl, rfl, by simp, ?_, ?_, by simp⟩, by rw [resolved]; rfl⟩
    · exact progress_set_progress_self exchange ticket .spent present
    · intro other different
      exact progress_set_progress_other exchange .spent different
  next gone =>
    cases collected
    exact ⟨⟨rfl, rfl, rfl, gone, fun _ _ => rfl, fun _ => rfl⟩, by rw [gone]; rfl⟩

end Exchange

namespace Desk

def looksAt (desk : Desk) : Holding → Option Nat
  | .ticket number .tryGet | .ticket number .waitLimited | .ticket number .wait =>
      if desk.exchange.holds number then some number else none
  | .joinWait waiter => desk.waiters[waiter]?.join
  | _ => none

/-- What a look is answered while nothing has come of the ticket. -/
def early : Holding → Answer
  | .ticket _ .tryGet => .pending
  | .ticket _ .waitLimited => .outcome (.error .timedOut)
  | _ => .wouldBlock

inductive Handles (desk : Desk) : Holding → Answer → Desk → Prop where
  | early (step : Holding) (ticket : Nat) (looks : desk.looksAt step = some ticket)
      (waiting : desk.exchange.progress ticket = .waiting) :
      Handles desk step (early step) desk
  | peek (ticket : Nat) (use : TicketUse) (brief : use = .tryGet ∨ use = .waitLimited)
      (held : desk.exchange.holds ticket = true) (outcome : Outcome) (exchange : Exchange)
      (collected : desk.exchange.collect ticket = (some outcome, exchange)) :
      Handles desk (.ticket ticket use) (.outcome outcome) { desk with exchange }
  | wait (ticket : Nat) (held : desk.exchange.holds ticket = true) (outcome : Outcome)
      (exchange : Exchange) (collected : desk.exchange.collect ticket = (some outcome, exchange)) :
      Handles desk (.ticket ticket .wait) (.outcome outcome)
        { desk with exchange := exchange.letGo ticket }
  | join (waiter ticket : Nat) (waits : desk.waiters[waiter]?.join = some ticket)
      (outcome : Outcome) (exchange : Exchange)
      (collected : desk.exchange.collect ticket = (some outcome, exchange)) :
      Handles desk (.joinWait waiter) (.outcome outcome)
        { exchange, waiters := desk.waiters.set waiter none }
  | spawn (ticket : Nat) (held : desk.exchange.holds ticket = true) :
      Handles desk (.ticket ticket .spawnWait) (.receipt (.number desk.waiters.length))
        { exchange := desk.exchange.letGo ticket, waiters := desk.waiters ++ [some ticket] }
  | discard (ticket : Nat) (held : desk.exchange.holds ticket = true) :
      Handles desk (.ticket ticket .discard) (.receipt .done)
        { desk with exchange := desk.exchange.letGo ticket }
  | goneTicket (ticket : Nat) (use : TicketUse) (unheld : desk.exchange.holds ticket = false) :
      Handles desk (.ticket ticket use) .gone desk
  | goneWaiter (waiter : Nat) (nobody : desk.waiters[waiter]?.join = none) :
      Handles desk (.joinWait waiter) .gone desk
  | inbox (number : Nat) (use : InboxUse) :
      Handles desk (.inbox number use) (desk.exchange.useInbox number use).1
        { desk with exchange := (desk.exchange.useInbox number use).2 }
  | takeLog (tap : Nat) :
      Handles desk (.takeLog tap) (desk.exchange.takeLog tap).1
        { desk with exchange := (desk.exchange.takeLog tap).2 }

theorem handles_use_ticket (desk : Desk) (ticket : Nat) (use : TicketUse) :
    Handles desk (.ticket ticket use) (desk.useTicket ticket use).1
      (desk.useTicket ticket use).2 := by
  cases held : desk.exchange.holds ticket with
  | false =>
      simp only [useTicket, held]
      exact .goneTicket ticket use held
  | true =>
      cases use with
      | spawnWait =>
          simp only [useTicket, held]
          exact .spawn ticket held
      | discard =>
          simp only [useTicket, held]
          exact .discard ticket held
      | tryGet | waitLimited =>
          generalize looked : desk.exchange.collect ticket = result
          obtain ⟨due, exchange⟩ := result
          cases due with
          | none =>
              have waiting := Exchange.waiting_of_collect looked
              simp only [useTicket, held, Exchange.collect_of_waiting waiting]
              exact .early _ ticket (by simp [looksAt, held]) waiting
          | some outcome =>
              simp only [useTicket, held, looked]
              exact .peek ticket _ (by simp) held outcome exchange looked
      | wait =>
          generalize looked : desk.exchange.collect ticket = result
          obtain ⟨due, exchange⟩ := result
          cases due with
          | none =>
              have waiting := Exchange.waiting_of_collect looked
              simp only [useTicket, held, looked]
              exact .early _ ticket (by simp [looksAt, held]) waiting
          | some outcome =>
              simp only [useTicket, held, looked]
              exact .wait ticket held outcome exchange looked

theorem handles_join_wait (desk : Desk) (waiter : Nat) :
    Handles desk (.joinWait waiter) (desk.joinWait waiter).1 (desk.joinWait waiter).2 := by
  cases waits : desk.waiters[waiter]?.join with
  | none =>
      simp only [joinWait, waits]
      exact .goneWaiter waiter waits
  | some ticket =>
      generalize looked : desk.exchange.collect ticket = result
      obtain ⟨due, exchange⟩ := result
      simp only [joinWait, waits, looked]
      cases due with
      | some outcome => exact .join waiter ticket waits outcome exchange looked
      | none => exact .early (.joinWait waiter) ticket waits (Exchange.waiting_of_collect looked)

theorem handles_of_hold (desk : Desk) (step : Holding) :
    Handles desk step (desk.hold step).1 (desk.hold step).2 := by
  cases step with
  | ticket number use => exact handles_use_ticket desk number use
  | joinWait waiter => exact handles_join_wait desk waiter
  | inbox number use => exact .inbox number use
  | takeLog tap => exact .takeLog tap

section Handling

variable {desk later : Desk} {step : Holding} {answer : Answer}

theorem revision_of_handles (handles : Handles desk step answer later) :
    later.exchange.revision = desk.exchange.revision := by
  cases handles with
  | peek _ _ _ _ _ _ collected | wait _ _ _ _ collected | join _ _ _ _ _ collected =>
      exact (Exchange.collected_of_collect collected).1.revision
  | inbox number use => exact (Exchange.alike_use_inbox _ number use).revision
  | takeLog tap => exact (Exchange.alike_take_log _ tap).revision
  | _ => rfl

theorem awaiting_of_handles (handles : Handles desk step answer later) :
    later.exchange.awaiting = desk.exchange.awaiting := by
  cases handles with
  | peek _ _ _ _ _ _ collected | wait _ _ _ _ collected | join _ _ _ _ _ collected =>
      exact (Exchange.collected_of_collect collected).1.awaiting
  | inbox number use => exact (Exchange.alike_use_inbox _ number use).awaiting
  | takeLog tap => exact (Exchange.alike_take_log _ tap).awaiting
  | _ => rfl

theorem length_of_handles (handles : Handles desk step answer later) :
    later.exchange.tickets.length = desk.exchange.tickets.length := by
  cases handles with
  | peek _ _ _ _ _ _ collected | wait _ _ _ _ collected | join _ _ _ _ _ collected =>
      simp [(Exchange.collected_of_collect collected).1.length]
  | inbox number use => rw [(Exchange.alike_use_inbox _ number use).tickets]
  | takeLog tap => rw [(Exchange.alike_take_log _ tap).tickets]
  | _ => simp

/-- A look that finds something takes it; one that comes too early finds nothing. -/
theorem progress_of_look (handles : Handles desk step answer later) {ticket : Nat}
    (looks : desk.looksAt step = some ticket) :
    (desk.exchange.progress ticket = .waiting ∧ answer = early step ∧ later = desk) ∨
      ∃ outcome, (desk.exchange.progress ticket).due = some outcome ∧
        answer = .outcome outcome ∧ later.exchange.progress ticket = .spent := by
  cases handles with
  | early _ other sees waiting =>
      obtain rfl : ticket = other := Option.some.inj (looks.symm.trans sees)
      exact .inl ⟨waiting, rfl, rfl⟩
  | peek other use brief held outcome exchange collected =>
      obtain rfl : other = ticket := by
        rcases brief with rfl | rfl <;> simpa [looksAt, held] using looks
      obtain ⟨taken, due⟩ := Exchange.collected_of_collect collected
      exact .inr ⟨outcome, due, rfl, taken.spent⟩
  | wait other held outcome exchange collected =>
      obtain rfl : other = ticket := by simpa [looksAt, held] using looks
      obtain ⟨taken, due⟩ := Exchange.collected_of_collect collected
      exact .inr ⟨outcome, due, rfl, by simp [taken.spent]⟩
  | join waiter other waits outcome exchange collected =>
      obtain rfl : other = ticket := Option.some.inj (waits.symm.trans looks)
      obtain ⟨taken, due⟩ := Exchange.collected_of_collect collected
      exact .inr ⟨outcome, due, rfl, taken.spent⟩
  | goneTicket other use unheld => cases use <;> simp [looksAt, unheld] at looks
  | goneWaiter waiter nobody => simp [looksAt, nobody] at looks
  | _ => cases looks

theorem progress_of_other_look (handles : Handles desk step answer later) {ticket : Nat}
    (other : desk.looksAt step ≠ some ticket) :
    later.exchange.progress ticket = desk.exchange.progress ticket := by
  cases handles with
  | peek number use brief held outcome exchange collected =>
      have different : number ≠ ticket := by
        rintro rfl
        rcases brief with rfl | rfl <;> simp [looksAt, held] at other
      exact (Exchange.collected_of_collect collected).1.others ticket different
  | wait number held outcome exchange collected =>
      have different : number ≠ ticket := by
        rintro rfl
        simp [looksAt, held] at other
      rw [Exchange.progress_let_go]
      exact (Exchange.collected_of_collect collected).1.others ticket different
  | join waiter number waits outcome exchange collected =>
      have different : number ≠ ticket := by
        rintro rfl
        exact other waits
      exact (Exchange.collected_of_collect collected).1.others ticket different
  | spawn number held => exact Exchange.progress_let_go _ number ticket
  | discard number held => exact Exchange.progress_let_go _ number ticket
  | inbox number use => simp [Exchange.progress, (Exchange.alike_use_inbox _ number use).tickets]
  | takeLog tap => simp [Exchange.progress, (Exchange.alike_take_log _ tap).tickets]
  | _ => rfl

theorem coherent_of_handles (coherent : desk.exchange.Coherent)
    (handles : Handles desk step answer later) : later.exchange.Coherent := by
  intro ticket
  rw [awaiting_of_handles handles, ← coherent ticket]
  by_cases looks : desk.looksAt step = some ticket
  · rcases progress_of_look handles looks with ⟨_, _, same⟩ | ⟨outcome, due, _, spent⟩
    · rw [same]
    · have come : desk.exchange.progress ticket ≠ .waiting := by
        intro waiting
        rw [waiting] at due
        cases due
      simp [spent, come]
  · rw [progress_of_other_look handles looks]

/-- After this step the holder has no handle on the ticket any more: it was given away or thrown
away, or a wait has ended. -/
def UsesUp (ticket : Nat) (step : Holding) (answer : Answer) : Prop :=
  step = .ticket ticket .spawnWait ∨ step = .ticket ticket .discard ∨
    step = .ticket ticket .wait ∧ answer ≠ .wouldBlock

def Joins (waiter : Nat) (step : Holding) (answer : Answer) : Prop :=
  step = .joinWait waiter ∧ answer ≠ .wouldBlock

theorem holds_of_handles (handles : Handles desk step answer later) (ticket : Nat) :
    later.exchange.holds ticket = true ↔
      desk.exchange.holds ticket = true ∧ ¬UsesUp ticket step answer := by
  cases handles with
  | early _ other looks waiting =>
      have unused : ¬UsesUp ticket step (early step) := by
        rintro (rfl | rfl | ⟨rfl, told⟩)
        · cases looks
        · cases looks
        · exact told rfl
      simp [unused]
  | peek other use brief held outcome exchange collected =>
      have unused : ¬UsesUp ticket (.ticket other use) (.outcome outcome) := by
        rcases brief with rfl | rfl <;> simp [UsesUp]
      simp [unused, (Exchange.collected_of_collect collected).1.held]
  | wait other held outcome exchange collected =>
      simp [UsesUp, Exchange.holds_let_go, (Exchange.collected_of_collect collected).1.held]
  | join waiter other waits outcome exchange collected =>
      simp [UsesUp, (Exchange.collected_of_collect collected).1.held]
  | spawn other held => simp [UsesUp, Exchange.holds_let_go]
  | discard other held => simp [UsesUp, Exchange.holds_let_go]
  | goneTicket other use unheld =>
      constructor
      · intro held
        refine ⟨held, ?_⟩
        rintro (same | same | ⟨same, _⟩) <;> (cases same; simp [unheld] at held)
      · exact fun both => both.1
  | goneWaiter waiter nobody => simp [UsesUp]
  | inbox number use =>
      simp [UsesUp, Exchange.holds, (Exchange.alike_use_inbox desk.exchange number use).tickets]
  | takeLog tap =>
      simp [UsesUp, Exchange.holds, (Exchange.alike_take_log desk.exchange tap).tickets]

theorem waits_of_handles (handles : Handles desk step answer later) {waiter : Nat}
    (known : waiter < desk.waiters.length) (ticket : Nat) :
    later.waiters[waiter]?.join = some ticket ↔
      desk.waiters[waiter]?.join = some ticket ∧ ¬Joins waiter step answer := by
  cases handles with
  | early _ other looks waiting =>
      have untold : ¬Joins waiter step (early step) := by
        rintro ⟨rfl, told⟩
        exact told rfl
      simp [untold]
  | join asked other waits outcome exchange collected =>
      by_cases same : asked = waiter
      · subst same
        simp [Joins, List.getElem?_set_self known]
      · simp [Joins, List.getElem?_set_ne same, same]
  | spawn other held => simp [Joins, List.getElem?_append_left known]
  | goneWaiter asked nobody =>
      by_cases same : asked = waiter
      · subst same
        simp [Joins, nobody]
      · simp [Joins, same]
  | _ => simp [Joins]

theorem length_waiters_of_handles (handles : Handles desk step answer later) :
    desk.waiters.length ≤ later.waiters.length := by
  cases handles <;> simp

end Handling

end Desk

end WatchLink
