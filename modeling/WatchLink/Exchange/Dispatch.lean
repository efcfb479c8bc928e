import WatchLink.Exchange.Basic

/-!
# Dispatching a chunk

A chunk first answers the outstanding ticket, then goes to the inboxes, then to the taps in the
order in which they were set. A tap notes the chunk and then performs its operation, which may be
another dispatch; that one runs to its end before the first goes on.

A tap dispatches the same chunk every time, and what it reacts to depends on the chunk alone. So a
chain of dispatches, each caused by the one before, that is longer than there are taps contains some
chunk twice and never ends. `Exchange.dispatch` yields nothing in that case.
-/

namespace WatchLink

set_option autoImplicit false

namespace Exchange

/-- What an operation does before any tap is told. Unless it is a dispatch, that is all of it. -/
def beginning (operation : Operation) (exchange : Exchange) : Receipt × Exchange :=
  match operation with
  | .register =>
      match exchange.register with
      | .ok (ticket, after) => (.number ticket, after)
      | .error cause => (.refused cause, exchange)
  | .release => (.done, exchange.release)
  | .closeInboxes => (.done, exchange.closeInboxes)
  | .inspect => (.done, exchange)
  | .dispatch chunk => (.done, (exchange.answer chunk).publish chunk)
  | .failPending cause => (.done, exchange.failPending cause)
  | .subscribe => (.number exchange.subscribe.1, exchange.subscribe.2)

def performWith (nested : Bytes → Exchange → Option Exchange) (operation : Operation)
    (exchange : Exchange) : Option (Receipt × Exchange) :=
  match operation with
  | .dispatch chunk => (nested chunk exchange).map fun after => (.done, after)
  | other => some (exchange.beginning other)

def tell (nested : Bytes → Exchange → Option Exchange) (chunk : Bytes) (exchange : Exchange)
    (index : Nat) : Option Exchange :=
  let heard := exchange.note index (.heard chunk)
  match exchange.taps[index]?.bind Tap.reaction with
  | none => some heard
  | some reaction =>
      if reaction.triggeredBy chunk then
        (performWith nested reaction.operation heard).map fun (receipt, after) =>
          after.note index (.reacted receipt)
      else some heard

/-- Dispatches a chunk with at most `depth` dispatches inside one another. -/
def dispatchWithin : Nat → Bytes → Exchange → Option Exchange
  | 0, _, _ => none
  | depth + 1, chunk, exchange =>
      (List.range exchange.taps.length).foldlM (tell (dispatchWithin depth) chunk)
        (exchange.beginning (.dispatch chunk)).2

/-- Dispatches a chunk, or yields nothing where the taps would set each other off for ever. -/
def dispatch (chunk : Bytes) (exchange : Exchange) : Option Exchange :=
  dispatchWithin (exchange.taps.length + 1) chunk exchange

def perform (operation : Operation) (exchange : Exchange) : Option (Receipt × Exchange) :=
  performWith dispatch operation exchange

/-- Every tap notes a chunk and does nothing about it. -/
def notify (chunk : Bytes) (exchange : Exchange) : Exchange :=
  { exchange with taps := exchange.taps.map (Tap.note (.heard chunk)) }

end Exchange

end WatchLink
