import WatchLink.Message
import WatchLink.Revision

/-!
# Writing messages

The server's side of the inbound stream: the bytes of a reply to an action, and of the notice that
an entry expired. The client has only the readers; these are what they are to read.
-/

namespace WatchLink

set_option autoImplicit false

namespace EntryAdded

def bytes (added : EntryAdded) : Bytes :=
  MessageType.entryAdded.byte :: Numeral.signed.encode added.timestamp ++
    Numeral.short.encode added.id

end EntryAdded

namespace Refusal

def bytes (refusal : Refusal) : Bytes := [MessageType.error.byte, refusal.code.byte]

end Refusal

namespace EntryExpired

def dataLimit : Nat := 65535

def bytes (expired : EntryExpired) : Bytes :=
  MessageType.entryExpired.byte :: Numeral.signed.encode expired.timestamp ++
    Numeral.short.encode expired.id ++ Numeral.long.encode expired.tag ++
      Numeral.short.encode (UInt16.ofNat expired.data.length) ++ expired.data

end EntryExpired

inductive Reply where
  | value (number : UInt16)
  | bare (kind : MessageType)
  | entryAdded (added : EntryAdded)
  | refusal (answer : Refusal)
  deriving DecidableEq, Repr

namespace Reply

/-- Revision 1 answers with numbers, the later revisions with messages. -/
def knownTo (revision : Revision) : Reply → Bool
  | value _ => revision = .v1
  | bare _ | entryAdded _ | refusal _ => revision ≠ .v1

def bytes : Reply → Bytes
  | value number => Numeral.short.encode number
  | bare kind => [kind.byte]
  | entryAdded added => added.bytes
  | refusal answer => answer.bytes

def leading : Reply → UInt16
  | value number => number
  | bare kind => kind.byte.toUInt16
  | entryAdded _ => MessageType.entryAdded.byte.toUInt16
  | refusal _ => MessageType.error.byte.toUInt16

end Reply

end WatchLink
