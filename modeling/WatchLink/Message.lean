import WatchLink.Wire.Numeral

/-!
# Messages of the server

From revision 2 on, the first byte of everything the server writes is the type of a message. Most
messages are that byte alone. This module reads the ones with a payload: the confirmation of a new
entry, a refusal, and the notice that an entry expired. Each reader looks at the length first, then
at the type, then at the payload, and ignores whatever follows the message.
-/

namespace WatchLink

set_option autoImplicit false

inductive MessageType where
  | ping
  | pong
  | addEntry
  | entryAdded
  | removeEntry
  | entryRemoved
  | entryExpired
  | setWatchMode
  | ok
  | error
  deriving DecidableEq, Repr

namespace MessageType

def byte : MessageType → UInt8
  | ping => 0
  | pong => 1
  | addEntry => 2
  | entryAdded => 3
  | removeEntry => 4
  | entryRemoved => 5
  | entryExpired => 6
  | setWatchMode => 7
  | ok => 8
  | error => 9

def name : MessageType → String
  | ping => "Ping"
  | pong => "Pong"
  | addEntry => "AddEntry"
  | entryAdded => "EntryAdded"
  | removeEntry => "RemoveEntry"
  | entryRemoved => "EntryRemoved"
  | entryExpired => "EntryExpired"
  | setWatchMode => "SetWatchMode"
  | ok => "Ok"
  | error => "Error"

def every : List MessageType :=
  [ping, pong, addEntry, entryAdded, removeEntry, entryRemoved, entryExpired, setWatchMode, ok,
    error]

def ofByte (value : UInt8) : Except DecodeError MessageType :=
  match every.find? fun kind => kind.byte == value with
  | some kind => .ok kind
  | none => .error (.invalid "message type" value)

end MessageType

inductive RefusalCode where
  | clientRejected
  | actionNotImplemented
  | invalidAction
  | actionProcessingError
  | connectionFailure
  deriving DecidableEq, Repr

namespace RefusalCode

def byte : RefusalCode → UInt8
  | clientRejected => 0
  | actionNotImplemented => 1
  | invalidAction => 2
  | actionProcessingError => 3
  | connectionFailure => 4

def name : RefusalCode → String
  | clientRejected => "ClientRejected"
  | actionNotImplemented => "ActionNotImplemented"
  | invalidAction => "InvalidAction"
  | actionProcessingError => "ActionProcessingError"
  | connectionFailure => "ConnectionFailure"

def every : List RefusalCode :=
  [clientRejected, actionNotImplemented, invalidAction, actionProcessingError, connectionFailure]

def ofByte (value : UInt8) : Except DecodeError RefusalCode :=
  match every.find? fun code => code.byte == value with
  | some code => .ok code
  | none => .error (.invalid "error code" value)

end RefusalCode

/-- The payload of a message of `size` bytes whose first byte must be the type `kind`; `what` names
that byte where it is another one. -/
def payloadOf (what : String) (kind : MessageType) (size : Nat) (chunk : Bytes) :
    Except DecodeError Bytes :=
  if chunk.length < size then .error (.tooShort size chunk.length)
  else match chunk with
    | [] => .error (.tooShort size 0)
    | first :: payload =>
        if first = kind.byte then .ok payload else .error (.invalid what first)

structure EntryAdded where
  timestamp : Int64
  id : UInt16
  deriving DecidableEq, Repr

namespace EntryAdded

/-- Type, timestamp and id. -/
def size : Nat := 1 + 8 + 2

def fields : Reader EntryAdded := fun bytes => do
  let (timestamp, afterTimestamp) ← Numeral.signed.read bytes
  let (id, rest) ← Numeral.short.read afterTimestamp
  some ({ timestamp, id }, rest)

def parse (chunk : Bytes) : Except DecodeError EntryAdded := do
  let payload ← payloadOf "reply type" .entryAdded size chunk
  match fields payload with
  | some (added, _) => .ok added
  | none => .error (.tooShort size chunk.length)

end EntryAdded

structure Refusal where
  code : RefusalCode
  deriving DecidableEq, Repr

namespace Refusal

/-- Type and code. -/
def size : Nat := 1 + 1

def parse (chunk : Bytes) : Except DecodeError Refusal := do
  let payload ← payloadOf "reply type" .error size chunk
  match Numeral.byte.read payload with
  | some (code, _) => return { code := ← RefusalCode.ofByte code }
  | none => .error (.tooShort size chunk.length)

end Refusal

structure EntryExpired where
  timestamp : Int64
  id : UInt16
  tag : UInt64
  data : Bytes
  deriving DecidableEq, Repr

namespace EntryExpired

/-- Type, timestamp, id, tag and length: everything before the data. -/
def headerSize : Nat := 1 + 8 + 2 + 8 + 2

structure Header where
  timestamp : Int64
  id : UInt16
  tag : UInt64
  length : UInt16
  deriving DecidableEq, Repr

def header : Reader Header := fun bytes => do
  let (timestamp, afterTimestamp) ← Numeral.signed.read bytes
  let (id, afterId) ← Numeral.short.read afterTimestamp
  let (tag, afterTag) ← Numeral.long.read afterId
  let (length, rest) ← Numeral.short.read afterTag
  some ({ timestamp, id, tag, length }, rest)

/-- Reads a chunk as the notice that an entry expired. The length of the data is known only once the
header is complete, so a chunk can be too short in two ways. -/
def parse (chunk : Bytes) : Except DecodeError EntryExpired := do
  let payload ← payloadOf "notification type" .entryExpired headerSize chunk
  match header payload with
  | none => .error (.tooShort headerSize chunk.length)
  | some (fixed, afterHeader) =>
      match Reader.block fixed.length.toNat afterHeader with
      | none => .error (.tooShort (headerSize + fixed.length.toNat) chunk.length)
      | some (data, _) =>
          .ok { timestamp := fixed.timestamp, id := fixed.id, tag := fixed.tag, data }

end EntryExpired

end WatchLink
