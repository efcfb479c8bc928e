import Mathlib.Data.List.Basic
import WatchLink.Exchange.Desk

/-!
# What every change does to the tickets

An exchange knows its outstanding ticket twice: by its number, and by the progress of the ticket
itself. `Coherent` says that the two agree; every change of an exchange keeps that. What has come of
a ticket is not changed by anything but a look at it, which is `Keeps`. `Grows` collects what every
change keeps; nothing here depends on who makes the changes, or in which order.
-/

namespace WatchLink

set_option autoImplicit false

def Progress.due : Progress → Option Outcome
  | waiting => none
  | resolved outcome => some outcome
  | spent => some (.error .interrupted)

namespace Progress

theorem due_eq_none_iff (progress : Progress) : progress.due = none ↔ progress = .waiting := by
  cases progress <;> simp [due]

end Progress

namespace Exchange

/-- The outstanding ticket is the one that still waits. -/
def Coherent (exchange : Exchange) : Prop :=
  ∀ ticket, exchange.progress ticket = .waiting ↔ exchange.awaiting = some ticket

/-- Every ticket is still there, and what has come of one stays as it is. -/
def Keeps (before after : Exchange) : Prop :=
  before.tickets.length ≤ after.tickets.length ∧
    ∀ ticket, ticket < before.tickets.length → before.progress ticket ≠ .waiting →
      after.progress ticket = before.progress ticket

def Detached (exchange : Exchange) : Prop :=
  exchange.closed = true → ∀ inbox ∈ exchange.inboxes, inbox.attached = false

/-! ## One ticket after a change -/

theorem progress_eq_spent_of_length_le {exchange : Exchange} {ticket : Nat}
    (beyond : exchange.tickets.length ≤ ticket) : exchange.progress ticket = .spent := by
  simp [progress, List.getElem?_eq_none beyond]

theorem lt_length_of_progress_ne_spent {exchange : Exchange} {ticket : Nat}
    (present : exchange.progress ticket ≠ .spent) : ticket < exchange.tickets.length := by
  by_contra beyond
  exact present (progress_eq_spent_of_length_le (Nat.le_of_not_lt beyond))

theorem lt_length_of_progress_eq_waiting {exchange : Exchange} {ticket : Nat}
    (waiting : exchange.progress ticket = .waiting) : ticket < exchange.tickets.length :=
  lt_length_of_progress_ne_spent (by simp [waiting])

@[simp] theorem length_tickets_set_progress (exchange : Exchange) (ticket : Nat)
    (progress : Progress) :
    (exchange.setProgress ticket progress).tickets.length = exchange.tickets.length := by
  simp [setProgress]

theorem progress_set_progress_self (exchange : Exchange) (ticket : Nat) (progress : Progress)
    (present : ticket < exchange.tickets.length) :
    (exchange.setProgress ticket progress).progress ticket = progress := by
  simp [setProgress, Exchange.progress, List.getElem?_eq_getElem present]

theorem progress_set_progress_other (exchange : Exchange) {ticket other : Nat}
    (progress : Progress) (different : ticket ≠ other) :
    (exchange.setProgress ticket progress).progress other = exchange.progress other := by
  simp [setProgress, Exchange.progress, different]

@[simp] theorem length_tickets_conclude (exchange : Exchange) (progress : Progress) :
    (exchange.conclude progress).tickets.length = exchange.tickets.length := by
  unfold conclude
  split <;> simp

@[simp] theorem awaiting_conclude (exchange : Exchange) (progress : Progress) :
    (exchange.conclude progress).awaiting = none := by
  unfold conclude
  split <;> simp_all

@[simp] theorem revision_conclude (exchange : Exchange) (progress : Progress) :
    (exchange.conclude progress).revision = exchange.revision := by
  unfold conclude
  split <;> rfl

@[simp] theorem closed_conclude (exchange : Exchange) (progress : Progress) :
    (exchange.conclude progress).closed = exchange.closed := by
  unfold conclude
  split <;> rfl

@[simp] theorem inboxes_conclude (exchange : Exchange) (progress : Progress) :
    (exchange.conclude progress).inboxes = exchange.inboxes := by
  unfold conclude
  split <;> rfl

theorem progress_conclude_of_awaiting {exchange : Exchange} (progress : Progress) {ticket : Nat}
    (coherent : exchange.Coherent) (outstanding : exchange.awaiting = some ticket) :
    (exchange.conclude progress).progress ticket = progress := by
  have present := lt_length_of_progress_eq_waiting ((coherent ticket).mpr outstanding)
  have settled := progress_set_progress_self exchange ticket progress present
  simp only [conclude, outstanding]
  exact settled

theorem progress_conclude_of_ne {exchange : Exchange} (progress : Progress) {ticket : Nat}
    (other : exchange.awaiting ≠ some ticket) :
    (exchange.conclude progress).progress ticket = exchange.progress ticket := by
  unfold conclude
  split
  · rfl
  next outstanding found =>
    have different : outstanding ≠ ticket := by
      intro same
      exact other (same ▸ found)
    exact progress_set_progress_other exchange progress different

/-- Registering succeeds just where nothing is outstanding, and then adds one ticket. -/
theorem register_eq (exchange : Exchange) :
    exchange.register =
      if exchange.awaiting = none then
        .ok (exchange.tickets.length,
          { exchange with
            awaiting := some exchange.tickets.length
            tickets := exchange.tickets ++ [{}] })
      else .error .alreadyAwaiting := by
  cases found : exchange.awaiting <;> simp [register, isAwaiting, found]

section Registering

variable {exchange later : Exchange} {ticket : Nat}

theorem register_ok (registered : exchange.register = .ok (ticket, later)) :
    exchange.awaiting = none ∧ ticket = exchange.tickets.length ∧
      later = { exchange with
        awaiting := some exchange.tickets.length
        tickets := exchange.tickets ++ [{}] } := by
  rw [register_eq] at registered
  split at registered
  next free =>
    injection registered with pair
    injection pair with number changed
    exact ⟨free, number.symm, changed.symm⟩
  · cases registered

theorem register_error {cause : ClientError} (refused : exchange.register = .error cause) :
    exchange.awaiting ≠ none ∧ cause = .alreadyAwaiting := by
  rw [register_eq] at refused
  split at refused
  · cases refused
  next taken =>
    injection refused with same
    exact ⟨taken, same.symm⟩

theorem awaiting_of_register (registered : exchange.register = .ok (ticket, later)) :
    later.awaiting = some ticket := by
  obtain ⟨_, number, changed⟩ := register_ok registered
  rw [changed, number]

theorem length_tickets_of_register (registered : exchange.register = .ok (ticket, later)) :
    later.tickets.length = exchange.tickets.length + 1 := by
  obtain ⟨_, _, changed⟩ := register_ok registered
  simp [changed]

theorem progress_of_register_self (registered : exchange.register = .ok (ticket, later)) :
    later.progress ticket = .waiting := by
  obtain ⟨_, number, changed⟩ := register_ok registered
  simp [changed, number, progress]

theorem progress_of_register_other (registered : exchange.register = .ok (ticket, later))
    {other : Nat} (different : other ≠ ticket) :
    later.progress other = exchange.progress other := by
  obtain ⟨_, number, changed⟩ := register_ok registered
  by_cases before : other < exchange.tickets.length
  · simp [changed, progress, List.getElem?_append_left before]
  · have beyond : exchange.tickets.length + 1 ≤ other := by omega
    have beyondLater : later.tickets.length ≤ other := by simpa [changed] using beyond
    rw [progress_eq_spent_of_length_le beyondLater,
      progress_eq_spent_of_length_le (by omega)]

end Registering

/-! ## What every change keeps -/

theorem fresh_coherent (revision : Revision) : ({ revision } : Exchange).Coherent := by
  intro ticket
  simp [progress]

theorem Coherent.of_register {exchange later : Exchange} {ticket : Nat}
    (coherent : exchange.Coherent) (registered : exchange.register = .ok (ticket, later)) :
    later.Coherent := by
  have free := (register_ok registered).1
  intro other
  rw [awaiting_of_register registered]
  by_cases same : other = ticket
  · subst same
    simp [progress_of_register_self registered]
  · rw [progress_of_register_other registered same, coherent other, free]
    simp [Ne.symm same]

theorem Coherent.conclude {exchange : Exchange} {progress : Progress} (coherent : exchange.Coherent)
    (settled : progress ≠ .waiting) : (exchange.conclude progress).Coherent := by
  intro ticket
  rw [awaiting_conclude]
  by_cases outstanding : exchange.awaiting = some ticket
  · simp [progress_conclude_of_awaiting progress coherent outstanding, settled]
  · simp [progress_conclude_of_ne progress outstanding, coherent ticket, outstanding]

theorem Coherent.of_same {before after : Exchange} (coherent : before.Coherent)
    (awaiting : after.awaiting = before.awaiting) (tickets : after.tickets = before.tickets) :
    after.Coherent := by
  intro ticket
  have same : after.progress ticket = before.progress ticket := by simp [progress, tickets]
  rw [same, awaiting, coherent ticket]

theorem keeps_of_same {before after : Exchange} (tickets : after.tickets = before.tickets) :
    Keeps before after := by
  refine ⟨by simp [tickets], ?_⟩
  intro ticket _ _
  simp [progress, tickets]

theorem keeps_of_register {exchange later : Exchange} {ticket : Nat}
    (registered : exchange.register = .ok (ticket, later)) : Keeps exchange later := by
  refine ⟨by rw [length_tickets_of_register registered]; omega, ?_⟩
  intro other present _
  have different : other ≠ ticket := by
    have number := (register_ok registered).2.1
    omega
  exact progress_of_register_other registered different

theorem keeps_conclude {exchange : Exchange} {progress : Progress} (coherent : exchange.Coherent) :
    Keeps exchange (exchange.conclude progress) := by
  refine ⟨by simp, ?_⟩
  intro ticket _ settled
  have other : exchange.awaiting ≠ some ticket := fun outstanding =>
    settled ((coherent ticket).mpr outstanding)
  exact progress_conclude_of_ne progress other

/-- Whatever the outstanding ticket comes to, afterwards no ticket waits. -/
theorem progress_ne_waiting_of_conclude {exchange : Exchange} {progress : Progress}
    (coherent : exchange.Coherent) (settled : progress ≠ .waiting) (ticket : Nat) :
    (exchange.conclude progress).progress ticket ≠ .waiting := by
  intro waiting
  have outstanding := (coherent.conclude settled ticket).mp waiting
  rw [awaiting_conclude] at outstanding
  cases outstanding

/-! ## Growth -/

structure Grows (before after : Exchange) : Prop where
  revision : after.revision = before.revision
  coherent : before.Coherent → after.Coherent
  keeps : before.Coherent → Keeps before after
  torn : before.closed = true → after.closed = true
  detached : before.Detached → after.Detached

theorem grows_refl (exchange : Exchange) : Grows exchange exchange where
  revision := rfl
  coherent held := held
  keeps _ := keeps_of_same rfl
  torn held := held
  detached held := held

theorem grows_of_same_inboxes {before after : Exchange}
    (revision : after.revision = before.revision)
    (closed : after.closed = before.closed) (inboxes : after.inboxes = before.inboxes)
    (coherent : before.Coherent → after.Coherent) (keeps : before.Coherent → Keeps before after) :
    Grows before after where
  revision := revision
  coherent := coherent
  keeps := keeps
  torn held := by rw [closed, held]
  detached held := by
    intro torn inbox member
    rw [closed] at torn
    rw [inboxes] at member
    exact held torn inbox member

theorem grows_of_same_tickets {before after : Exchange}
    (revision : after.revision = before.revision)
    (awaiting : after.awaiting = before.awaiting) (tickets : after.tickets = before.tickets)
    (torn : before.closed = true → after.closed = true)
    (detached : before.Detached → after.Detached) : Grows before after where
  revision := revision
  coherent held := held.of_same awaiting tickets
  keeps _ := keeps_of_same tickets
  torn := torn
  detached := detached

theorem grows_of_register {exchange later : Exchange} {ticket : Nat}
    (registered : exchange.register = .ok (ticket, later)) : Grows exchange later := by
  obtain ⟨_, _, changed⟩ := register_ok registered
  exact grows_of_same_inboxes (by rw [changed]) (by rw [changed]) (by rw [changed])
    (fun coherent => coherent.of_register registered) fun _ => keeps_of_register registered

theorem grows_conclude (exchange : Exchange) {progress : Progress} (settled : progress ≠ .waiting) :
    Grows exchange (exchange.conclude progress) :=
  grows_of_same_inboxes (revision_conclude _ _) (closed_conclude _ _) (inboxes_conclude _ _)
    (fun coherent => coherent.conclude settled) keeps_conclude

theorem grows_release (exchange : Exchange) : Grows exchange exchange.release :=
  grows_conclude exchange (by simp)

theorem grows_fail_pending (exchange : Exchange) (cause : ClientError) :
    Grows exchange (exchange.failPending cause) :=
  grows_conclude exchange (by simp)

theorem grows_answer (exchange : Exchange) (chunk : Bytes) :
    Grows exchange (exchange.answer chunk) :=
  grows_conclude exchange (by simp)

theorem grows_publish (exchange : Exchange) (chunk : Bytes) :
    Grows exchange (exchange.publish chunk) := by
  refine grows_of_same_tickets rfl rfl rfl id ?_
  intro held torn inbox member
  obtain ⟨old, oldMember, same⟩ := List.mem_map.mp member
  have detached := held torn old oldMember
  rw [← same, Inbox.accept, detached]
  exact detached

theorem grows_subscribe (exchange : Exchange) : Grows exchange exchange.subscribe.2 := by
  refine grows_of_same_tickets rfl rfl rfl id ?_
  intro held torn inbox member
  have closed : exchange.closed = true := torn
  rcases List.mem_append.mp member with old | new
  · exact held closed inbox old
  · rw [List.mem_singleton.mp new, closed]
    rfl

theorem grows_close_inboxes (exchange : Exchange) : Grows exchange exchange.closeInboxes := by
  refine grows_of_same_tickets rfl rfl rfl (fun _ => rfl) ?_
  intro _ _ inbox member
  obtain ⟨old, _, same⟩ := List.mem_map.mp member
  rw [← same]
  rfl

theorem grows_tap (exchange : Exchange) (reaction : Option Reaction) :
    Grows exchange (exchange.tap reaction).2 :=
  grows_of_same_tickets rfl rfl rfl id id

theorem grows_notify (exchange : Exchange) (chunk : Bytes) :
    Grows exchange (exchange.notify chunk) :=
  grows_of_same_tickets rfl rfl rfl id id

/-! ## Looking at a ticket -/

theorem collect_fst (exchange : Exchange) (ticket : Nat) :
    (exchange.collect ticket).1 = (exchange.progress ticket).due := by
  cases found : exchange.progress ticket <;> simp [collect, found, Progress.due]

end Exchange

namespace Desk

variable {desk : Desk} {ticket : Nat}

theorem try_get_ne_pending (come : desk.exchange.progress ticket ≠ .waiting) :
    (desk.useTicket ticket .tryGet).1 ≠ .pending := by
  cases found : desk.exchange.progress ticket with
  | waiting => exact (come found).elim
  | _ => cases held : desk.exchange.holds ticket <;> simp [useTicket, held, Exchange.collect, found]

theorem wait_ne_would_block (come : desk.exchange.progress ticket ≠ .waiting) :
    (desk.useTicket ticket .wait).1 ≠ .wouldBlock := by
  cases found : desk.exchange.progress ticket with
  | waiting => exact (come found).elim
  | _ => cases held : desk.exchange.holds ticket <;> simp [useTicket, held, Exchange.collect, found]

end Desk

end WatchLink
