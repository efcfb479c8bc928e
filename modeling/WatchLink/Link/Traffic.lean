import WatchLink.Link.Call

/-!
# Traffic on a link

Any number of callers use a link at the same time, while its worker and the network go about their
business. A move is one indivisible change by one of them; a run is any sequence of moves that can
be made. Holding a lock is one move, so the runs are all orders in which locks can be taken.
-/

namespace WatchLink

set_option autoImplicit false

/-- A link and every call that was ever begun on it, each with where it stands. -/
structure Traffic where
  link : Link
  calls : List (Call × Task) := []

inductive Move where
  | begin (call : Call)
  /-- The call with this number makes its next change, with what the host makes of it. -/
  | advance (number : Nat) (host : Host)
  | work
  | arrive (arrival : Arrival)
  deriving DecidableEq, Repr

namespace Traffic

def move (traffic : Traffic) : Move → Option Traffic
  | .begin call => some { traffic with calls := traffic.calls ++ [(call, call.begin)] }
  | .advance number host => do
      let (call, task) ← traffic.calls[number]?
      let (next, link) ← task.advance host traffic.link
      some { link, calls := traffic.calls.set number (call, next) }
  | .work => traffic.link.work.map fun link => { traffic with link }
  | .arrive arrival => (traffic.link.hear arrival).map fun link => { traffic with link }

def moves (traffic : Traffic) : List Move → Option Traffic
  | [] => some traffic
  | move :: later => (traffic.move move).bind fun after => after.moves later

def receipt? (traffic : Traffic) (number : Nat) : Option Receipt :=
  traffic.calls[number]?.bind fun (_, task) => task.receipt?

end Traffic

end WatchLink
