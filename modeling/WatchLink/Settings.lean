import WatchLink.ClientError

/-!
# Settings of a link

A link is configured once, before it is opened. `Settings.validate` refuses what no link can work
with.
-/

namespace WatchLink

set_option autoImplicit false

def version : String := "0.1.0"

structure Settings where
  host : String := "127.0.0.1"
  port : UInt16 := 3126
  revision : Revision := .v2
  /-- Announced under revision 1 only. -/
  purpose : Purpose := .action
  noDelay : Bool := true
  /-- The most bytes that one read takes up; what one read takes up is one chunk. -/
  readBufferSize : Nat := 4096
  /-- Milliseconds after which a write is given up; zero waits for ever. -/
  writeTimeout : Nat := 5000
  deriving DecidableEq, Repr

inductive Setting where
  | host (value : String)
  | port (value : UInt16)
  | revision (value : Revision)
  | purpose (value : Purpose)
  | noDelay (value : Bool)
  | readBufferSize (value : Nat)
  | writeTimeout (value : Nat)
  deriving DecidableEq, Repr

namespace Settings

def set (settings : Settings) : Setting → Settings
  | .host value => { settings with host := value }
  | .port value => { settings with port := value }
  | .revision value => { settings with revision := value }
  | .purpose value => { settings with purpose := value }
  | .noDelay value => { settings with noDelay := value }
  | .readBufferSize value => { settings with readBufferSize := value }
  | .writeTimeout value => { settings with writeTimeout := value }

def build (changes : List Setting) : Settings := changes.foldl set {}

def address (settings : Settings) : String := s!"{settings.host}:{settings.port.toNat}"

def validate (settings : Settings) : Except ClientError Unit :=
  if settings.readBufferSize = 0 then
    .error (.settings "read_buffer_size must be greater than zero")
  else if settings.host.isEmpty then .error (.settings "host must not be empty")
  else .ok ()

end Settings

end WatchLink
