import WatchLink.Exchange.Desk

/-!
# Running an exchange

An exchange on its own, driven step by step: its operations, the setting of taps, what the holder
does with tickets and inboxes, and giving the exchange up. After each step the run shows whether a
response is outstanding and whether the inboxes are closed, as long as there is an exchange to ask.
-/

namespace WatchLink

set_option autoImplicit false

namespace Exchange

inductive Step where
  | operation (operation : Operation)
  | tap (reaction : Option Reaction)
  | giveUp
  | hold (step : Holding)
  deriving DecidableEq, Repr

structure Status where
  awaiting : Bool
  closed : Bool
  deriving DecidableEq, Repr

/-- An exchange in a run. What was given up is only reached through what it gave out before. -/
structure Run where
  desk : Desk
  givenUp : Bool := false

namespace Run

def start (revision : Revision) : Run := { desk := { exchange := { revision } } }

def status (run : Run) : Option Status :=
  if run.givenUp then none
  else some { awaiting := run.desk.exchange.isAwaiting, closed := run.desk.exchange.closed }

def setExchange (run : Run) (exchange : Exchange) : Run :=
  { run with desk := { run.desk with exchange } }

/-- What a step does before any tap is told, and the answer to it. Unless it is a dispatch, that is
all of it. -/
def begin (run : Run) : Step → Answer × Run
  | .operation operation =>
      if run.givenUp then (.gone, run)
      else
        let (receipt, exchange) := run.desk.exchange.beginning operation
        (.receipt receipt, run.setExchange exchange)
  | .tap reaction =>
      if run.givenUp then (.gone, run)
      else
        let (number, exchange) := run.desk.exchange.tap reaction
        (.receipt (.number number), run.setExchange exchange)
  | .giveUp =>
      if run.givenUp then (.gone, run)
      else (.receipt .done, { run.setExchange run.desk.exchange.abandon with givenUp := true })
  | .hold step =>
      let (answer, desk) := run.desk.hold step
      (answer, { run with desk })

/-- The answer to a step and the run after it; nothing where the step would never end. -/
def step (run : Run) : Step → Option (Answer × Run)
  | .operation operation =>
      if run.givenUp then some (.gone, run)
      else (run.desk.exchange.perform operation).map fun (receipt, exchange) =>
        (.receipt receipt, run.setExchange exchange)
  | other => some (run.begin other)

def answers (run : Run) : List Step → Option (List (Answer × Option Status))
  | [] => some []
  | step :: later => do
      let (answer, after) ← run.step step
      let rest ← after.answers later
      some ((answer, after.status) :: rest)

end Run

end Exchange

end WatchLink
