import WatchLink.Wire.Bytes

/-!
# The other side

What a client meets when it dials, and what a server does once it has been reached. A server that
takes turns is all that is needed where one client acts alone.
-/

namespace WatchLink

set_option autoImplicit false

/-- What dialing comes to. -/
inductive Network where
  | accepts
  | refuses (reason : String)
  deriving DecidableEq, Repr

inductive ServerTurn where
  | silent
  | write (bytes : Bytes)
  | hangUp
  deriving DecidableEq, Repr

end WatchLink
