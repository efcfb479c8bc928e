import WatchLink.Exchange.Dispatch

/-!
# Holding tickets and inboxes

What a caller does with the things an exchange gave out: looking at a ticket, waiting for it or
having a thread wait for it, taking chunks from an inbox, reading the log of a tap. A thing that was
never given out, that was used up or that was thrown away is gone.

Waiting is described by what it comes to: a wait that cannot end before somebody else acts is
reported as `wouldBlock` and changes nothing.
-/

namespace WatchLink

set_option autoImplicit false

inductive Taking where
  | chunk (bytes : Bytes)
  | empty
  | disconnected
  deriving DecidableEq, Repr

inductive Answer where
  | receipt (receipt : Receipt)
  | gone
  | pending
  | wouldBlock
  | outcome (outcome : Outcome)
  | taking (taking : Taking)
  | takings (takings : List Taking)
  | count (number : Nat)
  | log (notes : List Note)

inductive TicketUse where
  | tryGet
  | waitLimited
  /-- Waits without a limit and uses the ticket up. -/
  | wait
  /-- Gives the ticket to a thread that waits. -/
  | spawnWait
  /-- Throws the ticket away. The response stays outstanding. -/
  | discard
  deriving DecidableEq, Repr

inductive InboxUse where
  | receive
  | drain
  | count
  | discard
  deriving DecidableEq, Repr

inductive Holding where
  | ticket (number : Nat) (use : TicketUse)
  | joinWait (waiter : Nat)
  | inbox (number : Nat) (use : InboxUse)
  | takeLog (tap : Nat)
  deriving DecidableEq, Repr

namespace Inbox

/-- Takes one chunk; an inbox without one says whether more can come. -/
def take (inbox : Inbox) : Taking × Inbox :=
  match inbox.feed.next with
  | some (chunk, feed) => (.chunk chunk, { inbox with feed })
  | none => (if inbox.attached then .empty else .disconnected, inbox)

def takeAll (inbox : Inbox) : List Taking × Inbox :=
  (inbox.feed.queued.map .chunk ++ [if inbox.attached then .empty else .disconnected],
    { inbox with feed := inbox.feed.emptied })

def discard (inbox : Inbox) : Inbox := { inbox with attached := false, held := false }

end Inbox

namespace Exchange

/-- Looks at a ticket. An outcome is handed over once; afterwards, and where there will never be
one, the wait counts as interrupted. -/
def collect (ticket : Nat) (exchange : Exchange) : Option Outcome × Exchange :=
  match exchange.progress ticket with
  | .waiting => (none, exchange)
  | .resolved outcome => (some outcome, exchange.setProgress ticket .spent)
  | .spent => (some (.error .interrupted), exchange)

def letGo (ticket : Nat) (exchange : Exchange) : Exchange :=
  { exchange with
    tickets := exchange.tickets.modify ticket fun found => { found with held := false } }

def holds (ticket : Nat) (exchange : Exchange) : Bool :=
  exchange.tickets[ticket]?.any Ticket.held

def setInbox (number : Nat) (inbox : Inbox) (exchange : Exchange) : Exchange :=
  { exchange with inboxes := exchange.inboxes.set number inbox }

def useInbox (number : Nat) (use : InboxUse) (exchange : Exchange) : Answer × Exchange :=
  match exchange.inboxes[number]? with
  | none => (.gone, exchange)
  | some inbox =>
      if !inbox.held then (.gone, exchange)
      else match use with
        | .receive => (.taking inbox.take.1, exchange.setInbox number inbox.take.2)
        | .drain => (.takings inbox.takeAll.1, exchange.setInbox number inbox.takeAll.2)
        | .count => (.count inbox.feed.queued.length, exchange)
        | .discard => (.receipt .done, exchange.setInbox number inbox.discard)

def takeLog (number : Nat) (exchange : Exchange) : Answer × Exchange :=
  match exchange.taps[number]? with
  | none => (.gone, exchange)
  | some tap => (.log tap.log.queued,
      { exchange with taps := exchange.taps.set number { tap with log := tap.log.emptied } })

end Exchange

/-- An exchange and the threads that wait on its tickets, by number; a thread that has been asked
for what it got is no more. -/
structure Desk where
  exchange : Exchange
  waiters : List (Option Nat) := []

namespace Desk

def useTicket (ticket : Nat) (use : TicketUse) (desk : Desk) : Answer × Desk :=
  if !desk.exchange.holds ticket then (.gone, desk)
  else match use with
    | .tryGet =>
        let (found, exchange) := desk.exchange.collect ticket
        ((found.map Answer.outcome).getD .pending, { desk with exchange })
    | .waitLimited =>
        let (found, exchange) := desk.exchange.collect ticket
        (.outcome (found.getD (.error .timedOut)), { desk with exchange })
    | .wait =>
        match desk.exchange.collect ticket with
        | (some outcome, exchange) =>
            (.outcome outcome, { desk with exchange := exchange.letGo ticket })
        | (none, _) => (.wouldBlock, desk)
    | .spawnWait =>
        (.receipt (.number desk.waiters.length),
          { exchange := desk.exchange.letGo ticket, waiters := desk.waiters ++ [some ticket] })
    | .discard => (.receipt .done, { desk with exchange := desk.exchange.letGo ticket })

def joinWait (waiter : Nat) (desk : Desk) : Answer × Desk :=
  match desk.waiters[waiter]?.join with
  | none => (.gone, desk)
  | some ticket =>
      match desk.exchange.collect ticket with
      | (some outcome, exchange) =>
          (.outcome outcome, { exchange, waiters := desk.waiters.set waiter none })
      | (none, _) => (.wouldBlock, desk)

def hold (step : Holding) (desk : Desk) : Answer × Desk :=
  match step with
  | .ticket number use => desk.useTicket number use
  | .joinWait waiter => desk.joinWait waiter
  | .inbox number use =>
      let (answer, exchange) := desk.exchange.useInbox number use
      (answer, { desk with exchange })
  | .takeLog tap =>
      let (answer, exchange) := desk.exchange.takeLog tap
      (answer, { desk with exchange })

end Desk

end WatchLink
