import WatchLink.Exchange.Desk
import WatchLink.Link.Call
import WatchLink.Network

/-!
# Sessions

One caller, one link and one server, acting in turns. The caller works on its link and holds what
the link gave it; the server writes, reads and hangs up. Every step is finished before the next
begins: what the server writes is delivered completely, and a call that would wait for ever is
reported instead.

The network of a session decides what dialing comes to. A link that has been started counts as
settling until a step waits for its signal or closes it, because until then the worker may still be
dialing.
-/

namespace WatchLink

set_option autoImplicit false

namespace Session

inductive Step where
  | call (call : Call)
  | inspect
  | settings
  /-- Waits until the link is open or never will be. -/
  | awaitOpening
  | awaitLimited (milliseconds : Nat)
  /-- Waits for that and does not ask how it ended. -/
  | awaitAny
  /-- Has a thread wait for that, for so many milliseconds or as long as it takes. -/
  | spawnAwait (limit : Option Nat)
  | joinAwait (watcher : Nat)
  | hasFired
  | text
  | signalText
  /-- Sends an action, lets the server read it and take its turn, and waits for the response. -/
  | request (action : Action) (turn : ServerTurn) (limited : Bool)
  | discard
  | serverWrite (bytes : Bytes)
  | serverRead (count : Nat)
  | serverReadAll
  | serverHangUp
  | hold (step : Holding)
  deriving DecidableEq, Repr

inductive Report where
  | answer (answer : Answer)
  | settings (settings : Settings)
  | fired
  | flag (value : Bool)
  | text (value : String)
  | timedOut
  | exchanged (outcome : Outcome) (read : Bytes)
  | bytes (value : Bytes)
  | notOpen
  | noPeer

end Session

structure Session where
  network : Network
  link : Link
  handed : List Nat := []
  waiters : List (Option Nat) := []
  /-- The threads that wait for the signal, by number. One that has told what it got is gone. -/
  watchers : List (Option Watcher) := []
  /-- Whether the worker may still be dialing. -/
  settling : Bool := false
  discarded : Bool := false
  /-- Whether the server has a connection to this client. -/
  peer : Bool := false
  /-- How many of the bytes sent to it the server has read. -/
  read : Nat := 0

namespace Session

def settle (session : Session) : Session :=
  if session.link.worker = .dialing then
    match session.network with
    | .accepts => { session with link := session.link.deal .accepted, peer := true }
    | .refuses reason => { session with link := session.link.deal (.unreachable reason) }
  else session

def unread (session : Session) : Bytes := session.link.sent.drop session.read

def readAll (session : Session) : Session := { session with read := session.link.sent.length }

def serve (turn : ServerTurn) (session : Session) : Session :=
  match turn with
  | .silent => session
  | .write bytes => { session with link := session.link.receive bytes }
  | .hangUp => { session with link := session.link.deal .ended }

/-- A call, from its beginning to its end. A start that succeeds leaves the link settling; closing
settles it. An action hands its caller a ticket, which from then on goes by the number of the
handle. -/
def perform (call : Call) (session : Session) : Answer × Session :=
  match session.link.call call with
  | (none, _) => (.wouldBlock, session)
  | (some receipt, link) =>
      let after := { session with link }
      match call, receipt with
      | .start, .done => (.receipt .done, { after with settling := true })
      | .close, _ => (.receipt receipt, { after.settle with settling := false })
      | .act _, .number ticket =>
          (.receipt (.number session.handed.length),
            { after with handed := session.handed ++ [ticket] })
      | _, _ => (.receipt receipt, after)

def resolve (ticket : Nat) (session : Session) : Outcome × Session :=
  let (found, exchange) := session.link.exchange.collect ticket
  (found.getD (.error .timedOut),
    { session with link := { session.link with exchange := exchange.letGo ticket } })

/-- Whether the server takes part in a request: the link is open and the action can be sent. -/
def reaches (action : Action) (session : Session) : Bool :=
  session.link.phase = .connected && (action.encode session.link.revision).isOk

/-- Sends an action, lets the server read it and take its turn, and waits for the response. A
request without a limit that gets no response would wait for ever. -/
def request (action : Action) (turn : ServerTurn) (limited : Bool) (session : Session) :
    Report × Session :=
  let reached := session.reaches action
  match session.link.call (.act action) with
  | (some (.number ticket), link) =>
      let asked := { session with link }
      let served := asked.readAll.serve turn
      match served.link.exchange.progress ticket, limited with
      | .waiting, false => (.answer .wouldBlock, served)
      | _, _ =>
          let (outcome, after) := served.resolve ticket
          (.exchanged outcome asked.unread, after)
  | (some (.refused cause), link) =>
      let refused := { session with link }
      if reached then (.exchanged (.error cause) refused.unread, refused.readAll)
      else (.exchanged (.error cause) [], refused)
  | (_, _) => (.answer .wouldBlock, session)

def awaited (blocked : Report) (session : Session) : Report :=
  match session.link.signal.opening with
  | none => blocked
  | some opening => .answer (.receipt (Task.receiptOf opening.result))

def stuck : Report := .answer .wouldBlock

/-- The caller uses what it holds. Tickets go by the numbers of their handles. -/
def hold (step : Holding) (session : Session) : Answer × Session :=
  let named : Option Holding := match step with
    | .ticket handle use => session.handed[handle]?.map fun ticket => .ticket ticket use
    | other => some other
  match named with
  | none => (.gone, session)
  | some step =>
      let (answer, desk) :=
        Desk.hold step { exchange := session.link.exchange, waiters := session.waiters }
      (answer, { session with
        link := { session.link with exchange := desk.exchange }, waiters := desk.waiters })

def pass (milliseconds : Nat) (session : Session) : Session :=
  if session.link.signal.hasFired then session
  else { session with watchers := session.watchers.map (Option.map (Watcher.pass milliseconds)) }

/-- A step that waits for the signal. It also settles the link, so that only a link that was never
started leaves its caller stuck, whatever its watchers got. -/
def await (step : Step) (session : Session) : Report × Session :=
  match step with
  | .awaitLimited milliseconds => (session.awaited .timedOut, session.pass milliseconds)
  | .awaitAny => (if session.link.signal.hasFired then .fired else stuck, session)
  | .joinAwait number =>
      if !session.link.signal.hasFired then (stuck, session)
      else match session.watchers[number]?.join with
        | none => (.answer .gone, session)
        | some watcher =>
            (if watcher = .expired then .timedOut else session.awaited stuck,
              { session with watchers := session.watchers.set number none })
  | _ => (session.awaited stuck, session)

def serverStep (step : Step) (session : Session) : Report × Session :=
  match step with
  | .serverWrite bytes =>
      if session.link.phase = .connected then
        (.answer (.receipt .done), session.serve (.write bytes))
      else (.notOpen, session)
  | .serverHangUp =>
      if session.link.phase = .connected then (.answer (.receipt .done), session.serve .hangUp)
      else (.notOpen, session)
  | .serverRead count =>
      if session.peer && session.link.signal.hasFired then
        let taken := session.unread.take count
        (.bytes taken, { session with read := session.read + taken.length })
      else (.noPeer, session)
  | _ =>
      if session.peer && session.link.signal.hasFired then
        if session.link.writable then (stuck, session)
        else (.bytes session.unread, session.readAll)
      else (.noPeer, session)

def callerStep (step : Step) (session : Session) : Report × Session :=
  if session.discarded then (.answer .gone, session)
  else match step with
    | .call call =>
        let (answer, after) := session.perform call
        (.answer answer, after)
    | .settings => (.settings session.link.settings, session)
    | .text => (.text session.link.text, session)
    | .request action turn limited => session.request action turn limited
    | .discard =>
        let (answer, after) := session.perform .close
        (.answer answer, { after with discarded := true })
    | _ => (.answer (.receipt .done), session)

def step (session : Session) (step : Step) : Report × Session :=
  match step with
  | .hold held =>
      let (answer, after) := session.hold held
      (.answer answer, after)
  | .awaitOpening | .awaitLimited _ | .awaitAny | .joinAwait _ =>
      { session.settle with settling := false }.await step
  | .spawnAwait limit =>
      (.answer (.receipt (.number session.watchers.length)),
        { session with watchers := session.watchers ++ [some (Watcher.ofLimit limit)] }.pass 0)
  | .hasFired => (.flag session.link.signal.hasFired, session)
  | .signalText => (.text session.link.signal.text, session)
  | .serverWrite _ | .serverRead _ | .serverReadAll | .serverHangUp => session.serverStep step
  | .call _ | .inspect | .settings | .text | .request .. | .discard => session.callerStep step

/-- The phase, where a step shows it: not when the caller only uses what it holds, not while the
worker may still be dialing, and not once the link has been thrown away. -/
def shownPhase (session : Session) : Step → Option Phase
  | .hold _ => none
  | _ => if session.settling || session.discarded then none else some session.link.phase

inductive Beginning where
  /-- The link does not touch the network. -/
  | created
  | started
  /-- The link is open, or the session does not come about. -/
  | opened
  deriving DecidableEq, Repr

def begin (network : Network) (settings : Settings) (beginning : Beginning) :
    Except ClientError Session := do
  let fresh : Session := { network, link := ← Link.create settings }
  match beginning with
  | .created => return fresh
  | .started => return (fresh.perform .start).2
  | .opened =>
      let settled := { (fresh.perform .start).2.settle with settling := false }
      match settled.link.signal.opening with
      | none => return settled
      | some opening =>
          opening.result
          return settled

def reports (session : Session) : List Step → List (Report × Option Phase)
  | [] => []
  | step :: later =>
      let (report, after) := session.step step
      (report, after.shownPhase step) :: after.reports later

end Session

end WatchLink
