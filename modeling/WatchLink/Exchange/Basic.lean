import WatchLink.ClientError
import WatchLink.Exchange.Feed
import WatchLink.Response

/-!
# The exchange

The protocol does not label its responses: the first chunk that arrives after an action answers it.
An exchange therefore awaits at most one response at a time. The promise of that response is a
ticket; whoever registers an action gets the number of one. Every chunk is also handed to the
inboxes and the taps, whether or not it answered anything.

Each operation in this module is one indivisible change. An exchange is shared by the callers and
the worker of a link, and any order of these changes can occur.
-/

namespace WatchLink

set_option autoImplicit false

abbrev Outcome := Except ClientError Response

inductive Progress where
  | waiting
  /-- The outcome is there and has not been looked at. -/
  | resolved (outcome : Outcome)
  /-- The outcome has been delivered, or there will never be one. -/
  | spent

/-- The promise of a response. It is `held` while its caller can still ask for the outcome. -/
structure Ticket where
  progress : Progress := .waiting
  held : Bool := true

/-- A queue of chunks for one subscriber. It is `attached` while chunks can still arrive, and `held`
while the subscriber can still take them. -/
structure Inbox where
  feed : Feed Bytes := {}
  attached : Bool := true
  held : Bool := true
  deriving DecidableEq, Repr

inductive Receipt where
  | done
  /-- The number of the ticket, inbox or tap that was made. -/
  | number (value : Nat)
  | refused (cause : ClientError)
  deriving DecidableEq, Repr

inductive Operation where
  | register
  | release
  | closeInboxes
  | inspect
  | dispatch (chunk : Bytes)
  | failPending (cause : ClientError)
  | subscribe
  deriving DecidableEq, Repr

structure Reaction where
  /-- The first byte of the chunks that call for the operation; without it, every chunk does. -/
  trigger : Option UInt8
  operation : Operation
  deriving DecidableEq, Repr

inductive Note where
  | heard (chunk : Bytes)
  | reacted (receipt : Receipt)
  deriving DecidableEq, Repr

structure Tap where
  reaction : Option Reaction := none
  log : Feed Note := {}
  deriving DecidableEq, Repr

/-- Pairs outbound actions with inbound chunks, and passes every chunk on. -/
structure Exchange where
  revision : Revision
  awaiting : Option Nat := none
  /-- Every ticket ever made, by number. -/
  tickets : List Ticket := []
  inboxes : List Inbox := []
  taps : List Tap := []
  /-- Whether inboxes have been closed, present and future ones alike. -/
  closed : Bool := false

def Reaction.triggeredBy (reaction : Reaction) (chunk : Bytes) : Bool :=
  match reaction.trigger with
  | none => true
  | some byte => chunk.head? == some byte

def Inbox.accept (chunk : Bytes) (inbox : Inbox) : Inbox :=
  if inbox.attached then { inbox with feed := inbox.feed.push chunk } else inbox

def Inbox.detach (inbox : Inbox) : Inbox := { inbox with attached := false }

def Tap.note (line : Note) (tap : Tap) : Tap := { tap with log := tap.log.push line }

namespace Exchange

def isAwaiting (exchange : Exchange) : Bool := exchange.awaiting.isSome

/-- How far a ticket has come; one that was never made promises nothing. -/
def progress (exchange : Exchange) (ticket : Nat) : Progress :=
  match exchange.tickets[ticket]? with
  | some found => found.progress
  | none => .spent

def setProgress (exchange : Exchange) (ticket : Nat) (progress : Progress) : Exchange :=
  { exchange with tickets := exchange.tickets.modify ticket fun found => { found with progress } }

/-- Claims the next chunk as the response to an action that is about to be sent. -/
def register (exchange : Exchange) : Except ClientError (Nat × Exchange) :=
  if exchange.isAwaiting then .error .alreadyAwaiting
  else
    let ticket := exchange.tickets.length
    .ok (ticket, { exchange with awaiting := some ticket, tickets := exchange.tickets ++ [{}] })

/-- The outstanding ticket, if any, gets this progress and is outstanding no more. -/
def conclude (exchange : Exchange) (progress : Progress) : Exchange :=
  match exchange.awaiting with
  | none => exchange
  | some ticket => { exchange.setProgress ticket progress with awaiting := none }

/-- Gives up the outstanding ticket: its action was never sent. -/
def release (exchange : Exchange) : Exchange := exchange.conclude .spent

def failPending (cause : ClientError) (exchange : Exchange) : Exchange :=
  exchange.conclude (.resolved (.error cause))

def outcomeOf (revision : Revision) (chunk : Bytes) : Outcome :=
  match Response.decode revision chunk with
  | .ok response => .ok response
  | .error cause => .error (.decode cause)

def answer (chunk : Bytes) (exchange : Exchange) : Exchange :=
  exchange.conclude (.resolved (outcomeOf exchange.revision chunk))

def publish (chunk : Bytes) (exchange : Exchange) : Exchange :=
  { exchange with inboxes := exchange.inboxes.map (Inbox.accept chunk) }

/-- Opens an inbox. After the inboxes were closed, a new one is detached from the start. -/
def subscribe (exchange : Exchange) : Nat × Exchange :=
  (exchange.inboxes.length,
    { exchange with inboxes := exchange.inboxes ++ [{ attached := !exchange.closed }] })

def closeInboxes (exchange : Exchange) : Exchange :=
  { exchange with inboxes := exchange.inboxes.map Inbox.detach, closed := true }

def tap (reaction : Option Reaction) (exchange : Exchange) : Nat × Exchange :=
  (exchange.taps.length, { exchange with taps := exchange.taps ++ [{ reaction }] })

def note (index : Nat) (line : Note) (exchange : Exchange) : Exchange :=
  { exchange with taps := exchange.taps.modify index (Tap.note line) }

/-- The exchange is given up: nothing will answer the outstanding ticket or reach an inbox. -/
def abandon (exchange : Exchange) : Exchange := exchange.release.closeInboxes

end Exchange

end WatchLink
