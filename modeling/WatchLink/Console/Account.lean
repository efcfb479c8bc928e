import WatchLink.Console.Run
import WatchLink.Network

/-!
# What a command line comes to

A command line is performed against a network, and where that accepts, against a server that takes
its turns one by one. A turn is taken when the run waits for its link, and the run has dealt with it
completely before the next one. The server reads whatever it is sent.
-/

namespace WatchLink

set_option autoImplicit false

namespace Console

/-- What a command line comes to: how the program exits, what it has printed, and what it has sent.
A program that still waits when the server has taken its last turn does not exit. -/
structure Account where
  exitCode : Option UInt32
  printed : List Line := []
  sent : Bytes := []

/-- The exit code for a command line that makes no sense. -/
def rejection : UInt32 := 2

namespace Run

def dial (network : Network) (run : Run) : Run :=
  match network with
  | .accepts => run.deal .accepted
  | .refuses reason => run.deal (.unreachable reason)

/-- The run after a turn of the server. What the server writes at once arrives by as much as one
read takes up. -/
def serve (turn : ServerTurn) (run : Run) : Run :=
  match turn with
  | .silent => run
  | .write bytes =>
      (bytes.pieces run.link.settings.readBufferSize).foldl
        (fun current piece => current.deal (.chunk piece)) run
  | .hangUp => run.deal .ended

def account (network : Network) (turns : List ServerTurn) (run : Run) : Account :=
  let played := turns.foldl (fun current turn => current.serve turn) (run.dial network)
  { exitCode := played.exitCode?, printed := played.printed, sent := played.link.sent }

end Run

def perform (network : Network) (turns : List ServerTurn) (arguments : List String) : Account :=
  match Arguments.parse arguments with
  | .reject => { exitCode := some rejection }
  | .show lines => { exitCode := some 0, printed := lines.map .plain }
  | .run invocation => (Run.begin invocation).account network turns

end Console

end WatchLink
