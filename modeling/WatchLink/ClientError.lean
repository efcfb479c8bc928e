import WatchLink.Revision
import WatchLink.Wire.DecodeError

/-!
# Failures of the client

Every operation of a link fails with one of these causes. The wording of each is in `message`.
-/

namespace WatchLink

set_option autoImplicit false

inductive ClientError where
  | io (text : String)
  | connect (address reason : String)
  | notConnected
  | linkClosed
  /-- The link ended while a response was still awaited. -/
  | interrupted
  | timedOut
  | decode (cause : DecodeError)
  | misuse (text : String)
  | dataTooLong (length : Nat)
  | unsupported (what : String) (revision : Revision)
  | settings (text : String)
  deriving DecidableEq, Repr

namespace ClientError

def alreadyAwaiting : ClientError := .misuse "an action is already awaiting its response"

def alreadyStarted : ClientError := .misuse "connection already started"

def message : ClientError → String
  | io text => s!"IO error: {text}"
  | connect address reason => s!"Failed to connect to {address}: {reason}"
  | notConnected => "Connection is not ready yet"
  | linkClosed => "Connection has been closed"
  | interrupted => "Connection closed before a response arrived"
  | timedOut => "Timed out waiting for the server"
  | decode cause => s!"Decode error: {cause.message}"
  | misuse text => s!"Protocol misuse: {text}"
  | dataTooLong length => s!"Entry data of {length} bytes exceeds the u16 length field"
  | unsupported what revision => s!"{what} is not supported by protocol {revision.title}"
  | settings text => s!"Configuration error: {text}"

end ClientError

end WatchLink
