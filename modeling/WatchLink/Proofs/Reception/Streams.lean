import WatchLink.Proofs.Reception.CutOff
import WatchLink.Proofs.Traffic.Replies

/-!
# What an observer hears of the stream

The server's bytes reach every observer in order, cut into chunks of which nothing is lost, repeated
or changed. Between the step that makes an observer and the end of a run, `Hears` accounts for every
byte: what was on its way at the beginning and what was written since is what the observer was
handed and what is still on its way, up to the step that cuts the observer off, if there is one. A
link that nobody closes and whose stream does not break cuts off no one who wants to hear, and
leaves nothing on its way when its socket is gone.
-/

namespace WatchLink

set_option autoImplicit false

namespace Reception

def due (state : Reception) (observer : Observer) : Bytes :=
  (state.link.worker.waiting observer).flatten ++ state.stream

end Reception

/-- A run of a link with these settings, and one of its steps. -/
structure Hearing (settings : Settings) where
  link : Link
  front : List Reception.Step
  step : Reception.Step
  back : List Reception.Step
  before : Reception
  after : Reception
  last : Reception
  created : Link.create settings = .ok link
  ranFront : (Reception.fresh link).run front = some before
  stepped : before.step step = some after
  ranBack : after.run back = some last

namespace Hearing

variable {settings : Settings}

def Registers (hearing : Hearing settings) (observer : Observer) : Prop :=
  hearing.before.link.exchange.arrivals observer = none ∧
    hearing.after.link.exchange.arrivals observer ≠ none

section Hears

variable (hearing : Hearing settings)

end Hears

end Hearing

/-! ## Taking up the stream -/

namespace Link

def pass (chunk : Bytes) (link : Link) : Link :=
  ((link.mapExchange (Exchange.answer chunk)).mapExchange (Exchange.publish chunk)).mapExchange
    (Exchange.notify chunk)

end Link

namespace Reception

section Delivering

variable {state : Reception}

end Delivering

end Reception

namespace Hearing

variable {settings : Settings}

/-- An open link, on which a subscription stands here, and what has been read of a confirmation. -/
def subscribing (settings : Settings) (task : Task) (inboxes : List Inbox) (written : Bytes)
    (heard : List Bytes) : Reception where
  dealings.traffic.link :=
    { settings
      phase := .connected
      writable := true
      exchange := { revision := settings.revision, inboxes }
      signal := { opening := some .ready }
      worker := .reading }
  dealings.traffic.calls := [(.start, .finished .done), (.subscribe, task)]
  written := written
  heard := heard

def confirmation : Bytes := [3, 0, 0, 0, 0, 1]

end Hearing

end WatchLink
