import WatchLink.Console.Arguments
import WatchLink.Console.LogFilter
import WatchLink.Exchange.Desk
import WatchLink.Link.Call

/-!
# Carrying out a command

A run carries out one command over one link. It goes from one moment to the next by `Run.step`,
which makes one indivisible change or says that the run waits for its link; between two moments the
network may do something to the link, which is `Run.hear`. So a chunk can arrive before or after any
change that the run makes. `Run.goOn` lets a run go on until it waits for its link again.

Everything printed is kept in order, log lines and results alike.
-/

namespace WatchLink

set_option autoImplicit false

namespace Console

inductive Line where
  | plain (text : String)
  | log (severity : Severity) (target text : String)
  deriving DecidableEq, Repr

inductive Stage where
  | opening
  | subscribing (action : Action)
  | sending (task : Task) (inbox : Option Nat)
  | awaiting (ticket : Nat) (inbox : Option Nat)
  /-- It is about to take from the inbox the chunk that it has already had as a response. -/
  | skipping (response : Response) (inbox : Nat)
  | following (inbox : Nat)
  | closing (task : Task)
  /-- The link is thrown away, which closes it; `failure` is what went wrong before. -/
  | leaving (task : Task) (failure : Option ClientError)
  | finished (exitCode : UInt32)

structure Run where
  command : Command
  link : Link
  stage : Stage := .opening
  printed : List Line := []

def programTarget : String := "radium_cli"

def linkTarget : String := "radium::network::connection"

def pushLine (chunk : Bytes) : String :=
  match EntryExpired.parse chunk with
  | .ok entry =>
      let size := entry.data.length
      s!"Entry {entry.id} expired at {entry.timestamp} (tag {entry.tag}, {size} bytes)"
  | .error _ => s!"Pushed {chunk.listing}"

def refusalLine (response : Response) : String :=
  match response.refusal with
  | .ok refusal => s!"Server error: {refusal.code.name}"
  | .error _ => s!"Unexpected response {response.text}"

namespace Command

def action : Command → Option Action
  | ping => some .ping
  | watch mode tag => some (.setWatchMode mode tag)
  | add timestamp data => some (.addEntry timestamp data)
  | remove timestamp id => some (.removeEntry timestamp id)
  | close => none

def responseLine (command : Command) (response : Response) : String :=
  match command with
  | ping => s!"Received {response.text}"
  | watch _ _ => s!"Watch mode set: {response.text}"
  | add _ _ =>
      match response.entryAdded with
      | .ok added => s!"Entry {added.id} added at {added.timestamp}"
      | .error _ => refusalLine response
  | remove _ id =>
      match response.messageType with
      | .ok .entryRemoved => s!"Entry {id} removed"
      | _ => refusalLine response
  | close => ""

end Command

namespace Run

def print (line : Line) (run : Run) : Run := { run with printed := run.printed ++ [line] }

def say (text : String) (run : Run) : Run := run.print (.plain text)

def log (severity : Severity) (text : String) (run : Run) : Run :=
  run.print (.log severity programTarget text)

def enter (stage : Stage) (run : Run) : Run := { run with stage }

def leave (failure : Option ClientError) (run : Run) : Run :=
  run.enter (.leaving Call.close.begin failure)

def finish (failure : Option ClientError) (run : Run) : Run :=
  match failure with
  | none => run.enter (.finished 0)
  | some cause => (run.log .error cause.message).enter (.finished 1)

def opened (run : Run) : Run :=
  let greeted := run.log .info s!"Connected to {run.link.settings.address}"
  match run.command, run.command.action with
  | .watch _ _, some action => greeted.enter (.subscribing action)
  | _, some action => greeted.enter (.sending (Call.act action).begin none)
  | _, none => greeted.enter (.closing Call.close.begin)

def answered (response : Response) (inbox : Option Nat) (run : Run) : Run :=
  let told := run.say (run.command.responseLine response)
  match inbox with
  | some inbox => told.enter (.skipping response inbox)
  | none => told.enter (.closing Call.close.begin)

/-- The run once the acknowledgement has been skipped. A push may have come with it. -/
def skipped (response : Response) (inbox : Nat) (run : Run) : Run :=
  let told := if response.trailing.isEmpty then run else run.say (pushLine response.trailing)
  told.enter (.following inbox)

def closed (run : Run) : Run :=
  match run.command with
  | .close => (run.say "Closed").leave none
  | _ => run.leave none

/-- Takes a chunk from an inbox; nothing where none is there and one may still come. -/
def takeFrom (inbox : Nat) (run : Run) : Option (Taking × Run) :=
  match run.link.exchange.useInbox inbox .receive with
  | (.taking .empty, _) => none
  | (.taking taking, exchange) => some (taking, { run with link := { run.link with exchange } })
  | _ => some (.disconnected, run)

def advance (task : Task) (resume : Task → Stage) (ended : Receipt → Run → Run) (run : Run) :
    Option Run :=
  match task.receipt? with
  | some receipt => some (ended receipt run)
  | none => (task.advance .grants run.link).map fun (next, link) =>
      { run with link, stage := resume next }

/-- The next moment of a run, or nothing where it waits for its link or has finished. -/
def step (run : Run) : Option Run :=
  match run.stage with
  | .opening => run.link.signal.opening.map fun opening =>
      match opening.result with
      | .ok () => run.opened
      | .error cause => run.leave (some cause)
  | .subscribing action =>
      let (inbox, exchange) := run.link.exchange.subscribe
      some { run with
        link := { run.link with exchange }
        stage := .sending (Call.act action).begin (some inbox) }
  | .sending task inbox =>
      run.advance task (fun next => .sending next inbox) fun receipt run =>
        match receipt with
        | .number ticket => run.enter (.awaiting ticket inbox)
        | .refused cause => run.leave (some cause)
        | .done => run.leave none
  | .awaiting ticket inbox =>
      match run.link.exchange.collect ticket with
      | (none, _) => none
      | (some outcome, exchange) =>
          let later := { run with link := { run.link with exchange } }
          match outcome with
          | .ok response => some (later.answered response inbox)
          | .error cause => some (later.leave (some cause))
  | .skipping response inbox => (run.takeFrom inbox).map fun (_, later) =>
      later.skipped response inbox
  | .following inbox => (run.takeFrom inbox).map fun (taking, later) =>
      match taking with
      | .chunk chunk => later.say (pushLine chunk)
      | _ => (later.log .info "Server closed the connection").leave none
  | .closing task =>
      run.advance task .closing fun _ run => run.closed
  | .leaving task failure =>
      run.advance task (fun next => .leaving next failure) fun _ run => run.finish failure
  | .finished _ => none

/-- What the network does. A link logs why it could not be opened or why it broke. -/
def hear (arrival : Arrival) (run : Run) : Option Run :=
  (run.link.hear arrival).map fun link =>
    let later := { run with link }
    let address := run.link.settings.address
    match arrival with
    | .unreachable reason | .unusable reason =>
        later.print (.log .warn linkTarget s!"Connection to {address} failed: {reason}")
    | .broken reason =>
        if run.link.phase = .closed then later
        else later.print (.log .warn linkTarget s!"Error reading from {address}: {reason}")
    | _ => later

/-- The run at its beginning: the settings have been looked at, and the worker has been set to work
if a link can work with them. -/
def begin (invocation : Invocation) : Run :=
  let settings : Settings :=
    { host := invocation.host, port := invocation.port, revision := invocation.revision }
  let unopened : Run :=
    { command := invocation.command
      link := { settings, exchange := { revision := settings.revision } } }
  let greeted := unopened.log .info s!"Radium CLI v{version}"
  match settings.validate with
  | .error cause => greeted.finish (some cause)
  | .ok () => { greeted with link := (greeted.link.call .start).2 }

/-- The moments that a run can still go on by itself. A chunk that it may print counts for one. -/
def remaining (run : Run) : Nat :=
  let queued := run.link.exchange.inboxes.foldl (fun sum inbox => sum + inbox.feed.queued.length) 0
  match run.stage with
  | .finished _ => 0
  | .leaving task _ => task.remaining + 1
  | .closing task => task.remaining + 6
  | .following _ => queued + 6
  | .skipping _ _ => queued + 7
  | .awaiting _ _ => queued + 11
  | .sending task _ => task.remaining + queued + 12
  | .subscribing _ => queued + 17
  | .opening => queued + 18

def goOnAtMost : Nat → Run → Run
  | 0, run => run
  | count + 1, run =>
      match run.step with
      | none => run
      | some later => goOnAtMost count later

/-- The run once its worker waits for the network or has ended, and it waits itself or has finished.
The worker goes first. -/
def goOn (run : Run) : Run :=
  let rested := { run with link := run.link.rest }
  let gone := rested.goOnAtMost rested.remaining
  { gone with link := gone.link.rest }

def deal (arrival : Arrival) (run : Run) : Run := ((run.hear arrival).getD run).goOn

def exitCode? (run : Run) : Option UInt32 :=
  match run.stage with
  | .finished code => some code
  | _ => none

end Run

/-- A line as it is printed, without the time that is put before a log line. -/
def Line.text : Line → String
  | plain text => text
  | log severity target text => s!"{severity.name} {target}: {text}"

/-- A line as it is printed, a log line with the time in front and its severity flush right. -/
def Line.stamped (time : String) : Line → String
  | plain text => text
  | log severity target text =>
      let gap := if severity.name.length < 5 then "  " else " "
      time ++ gap ++ (Line.log severity target text).text

def Line.isPlain : Line → Bool
  | plain _ => true
  | log _ _ _ => false

def Line.shownBy (filter : LogFilter) : Line → Bool
  | plain _ => true
  | log severity target _ => filter.shows severity target

end Console

end WatchLink
