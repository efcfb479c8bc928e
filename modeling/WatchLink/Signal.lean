import WatchLink.ClientError
import WatchLink.Quotation

/-!
# The opening signal

A latch that fires once, when the attempt to open a link has ended one way or the other. Any number
of callers may wait for it, before or after it fires.
-/

namespace WatchLink

set_option autoImplicit false

inductive Opening where
  | ready
  | failed (address reason : String)
  | closed
  deriving DecidableEq, Repr

structure Signal where
  opening : Option Opening := none
  deriving DecidableEq, Repr

inductive Watcher where
  | patient
  | limited (left : Nat)
  | expired
  deriving DecidableEq, Repr

namespace Opening

def result : Opening → Except ClientError Unit
  | ready => .ok ()
  | failed address reason => .error (.connect address reason)
  | closed => .error .linkClosed

/-- An opening as it is shown to a programmer, its texts in quotation marks. -/
def text : Opening → String
  | ready => "Ready"
  | failed address reason =>
      "Failed \x7b addr: " ++ Quotation.quoted address ++ ", reason: " ++
        Quotation.quoted reason ++ " \x7d"
  | closed => "Closed"

end Opening

namespace Watcher

def ofLimit : Option Nat → Watcher
  | none => patient
  | some limit => limited limit

def pass (milliseconds : Nat) : Watcher → Watcher
  | limited left => if left ≤ milliseconds then expired else limited (left - milliseconds)
  | other => other

end Watcher

namespace Signal

def hasFired (signal : Signal) : Bool := signal.opening.isSome

/-- Fires the latch. Only the first time counts. -/
def fire (opening : Opening) (signal : Signal) : Signal :=
  { opening := signal.opening.or (some opening) }

def text (signal : Signal) : String :=
  let shown := match signal.opening with
    | none => "None"
    | some opening => s!"Some({opening.text})"
  "ConnectedSignal \x7b outcome: " ++ shown ++ " \x7d"

end Signal

end WatchLink
