import WatchLink.Action

/-!
# Reading actions

The server's side of the outbound stream. `Action.read` takes one message from the front of a byte
string and leaves what follows it; `Action.decode` reads a byte string that is exactly one message.
A message says less than the action it was made from: `Action.asSent` drops the tag wherever it is
not sent.
-/

namespace WatchLink

set_option autoImplicit false

namespace Action

def asSent (revision : Revision) : Action → Action
  | setWatchMode mode tag => setWatchMode mode (sentTag revision mode tag)
  | action => action

def readAddEntry : Reader Action := fun bytes => do
  let (timestamp, afterTimestamp) ← Numeral.signed.read bytes
  let (length, afterLength) ← Numeral.short.read afterTimestamp
  let (data, rest) ← Reader.block length.toNat afterLength
  some (addEntry timestamp data, rest)

def readRemoveEntry : Reader Action := fun bytes => do
  let (timestamp, afterTimestamp) ← Numeral.signed.read bytes
  let (id, rest) ← Numeral.short.read afterTimestamp
  some (removeEntry timestamp id, rest)

/-- One message of revision 1, where an operation code fills two bytes. -/
def readShort : Reader Action := fun bytes => do
  let (code, rest) ← Numeral.short.read bytes
  if code = 0 then some (ping, rest)
  else if code = 2 then some (close, rest)
  else none

/-- Whether the bytes after a watch mode are read as its tag. A tag is not announced, so the reader
must know whether one follows. -/
inductive TagFollows where
  | yes
  | no
  deriving DecidableEq, Repr

def readSetWatchMode (revision : Revision) (tagFollows : TagFollows) : Reader Action :=
    fun bytes => do
  let (byte, afterMode) ← Numeral.byte.read bytes
  let mode ← revision.watchModeOf byte
  match tagFollows with
  | .no => some (setWatchMode mode none, afterMode)
  | .yes =>
      if revision.supportsTags ∧ mode = .tagged then
        let (tag, rest) ← Numeral.long.read afterMode
        some (setWatchMode mode (some tag), rest)
      else none

def read (revision : Revision) (tagFollows : TagFollows) : Reader Action := fun bytes =>
  match revision with
  | .v1 => readShort bytes
  | .v2 | .v3 => do
      let (code, content) ← Numeral.byte.read bytes
      if code = 0 then some (ping, content)
      else if code = 2 then readAddEntry content
      else if code = 4 then readRemoveEntry content
      else if code = 7 then readSetWatchMode revision tagFollows content
      else none

/-- The action of which `bytes` is the whole message. -/
def decode (revision : Revision) (bytes : Bytes) : Option Action :=
  match read revision .no bytes with
  | some (action, []) => some action
  | _ => match read revision .yes bytes with
    | some (action, []) => some action
    | _ => none

end Action

end WatchLink
