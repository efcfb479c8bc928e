import WatchLink.Console.Run

/-!
# A run among others

`Run.goOn` is one way in which a run, the worker of its link and the network take turns. A schedule
is any way: each move is one indivisible change by one of the three.
-/

namespace WatchLink

set_option autoImplicit false

namespace Console

namespace Run

inductive Move where
  | step
  | work
  | arrive (arrival : Arrival)
  deriving DecidableEq, Repr

def move (run : Run) : Move → Option Run
  | .step => run.step
  | .work => run.link.work.map fun link => { run with link }
  | .arrive arrival => run.hear arrival

def moves (run : Run) : List Move → Option Run
  | [] => some run
  | move :: later => (run.move move).bind fun after => after.moves later

end Run

end Console

end WatchLink
