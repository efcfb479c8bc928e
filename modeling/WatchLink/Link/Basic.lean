import WatchLink.Action
import WatchLink.Exchange.Dispatch
import WatchLink.Settings
import WatchLink.Signal

/-!
# Links

A link to a server: its settings, how far it has come, the exchange that pairs actions with
responses, the signal that it is open, and the worker that dials and reads in the background.
Callers and worker share all of it. What they hold a lock for is one indivisible change; the places
between those changes are written down in the types `Worker` and `Task`, so that any order of them
can be spoken of.
-/

namespace WatchLink

set_option autoImplicit false

inductive Phase where
  | disconnected
  | connecting
  | connected
  | closed
  deriving DecidableEq, Repr

inductive Teardown where
  /-- The phase becomes closed and the write half is taken away. -/
  | seal
  | failPending
  | closeInboxes
  deriving DecidableEq, Repr

inductive Worker where
  | absent
  /-- It waits for the server to answer. -/
  | dialing
  /-- The server answered; nobody has been told. -/
  | publishing
  /-- The link is usable; the signal has not fired. -/
  | announcing
  | reading
  /-- A chunk has answered its ticket and has still to go to the inboxes. -/
  | publishingChunk (chunk : Bytes)
  /-- A chunk has still to go to the taps. -/
  | notifying (chunk : Bytes)
  /-- It tears the link down; `opening` is what the signal is to fire with, if it has not fired. -/
  | finishing (stage : Teardown) (opening : Option Opening)
  /-- The link is torn down and the signal has still to fire. -/
  | signalling (opening : Opening)
  | ended
  deriving DecidableEq, Repr

structure Link where
  settings : Settings
  phase : Phase := .disconnected
  writable : Bool := false
  exchange : Exchange
  signal : Signal := {}
  worker : Worker := .absent
  sent : Bytes := []

namespace Phase

def name : Phase → String
  | disconnected => "Disconnected"
  | connecting => "Connecting"
  | connected => "Connected"
  | closed => "Closed"

end Phase

namespace Link

/-- A link that has not touched the network. -/
def create (settings : Settings) : Except ClientError Link := do
  settings.validate
  return { settings, exchange := { revision := settings.revision } }

def revision (link : Link) : Revision := link.settings.revision

def text (link : Link) : String :=
  "Connection \x7b addr: " ++ Quotation.quoted link.settings.address ++ ", revision: " ++
    link.revision.name ++ ", state: " ++ link.phase.name ++ " \x7d"

def mapExchange (change : Exchange → Exchange) (link : Link) : Link :=
  { link with exchange := change link.exchange }

def handshake (link : Link) : Bytes :=
  if link.revision.hasHandshake then Numeral.byte.encode link.settings.purpose.byte else []

def farewell (link : Link) : Bytes :=
  match Action.close.encode link.revision with
  | .ok bytes => bytes
  | .error _ => []

end Link

end WatchLink
