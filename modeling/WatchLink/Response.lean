import WatchLink.Message
import WatchLink.Revision

/-!
# Responses

The first chunk that arrives after an action answers it. A response keeps that whole chunk: its
first bytes are the value, and the readings at the end of this module look at the chunk or at the
value in the ways a caller may want.
-/

namespace WatchLink

set_option autoImplicit false

structure Response where
  revision : Revision
  value : UInt16
  chunk : Bytes := []
  deriving DecidableEq, Repr

namespace Response

/-- The response that a chunk carries. Only the leading value is decoded; the rest is kept. -/
def decode (revision : Revision) (chunk : Bytes) : Except DecodeError Response :=
  match revision with
  | .v1 => return { revision, value := ← Numeral.short.decode chunk, chunk }
  | .v2 | .v3 => return { revision, value := (← Numeral.byte.decode chunk).toUInt16, chunk }

/-- The bytes of the chunk after the value. They are not empty when the server's next message
arrived together with the response. -/
def trailing (response : Response) : Bytes :=
  response.chunk.drop response.revision.responseWidth

/-- The value as the type of a message. Revision 1 has no message types. -/
def messageType (response : Response) : Except DecodeError MessageType :=
  if response.revision = .v1 ∨ 255 < response.value then
    .error (.invalid "message type" response.value.toUInt8)
  else MessageType.ofByte response.value.toUInt8

def entryAdded (response : Response) : Except DecodeError EntryAdded :=
  EntryAdded.parse response.chunk

def refusal (response : Response) : Except DecodeError Refusal :=
  Refusal.parse response.chunk

def text (response : Response) : String :=
  match response.messageType with
  | .ok kind => s!"{response.value.toNat} ({kind.name})"
  | .error _ => s!"{response.value.toNat}"

end Response

end WatchLink
