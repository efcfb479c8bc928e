import WatchLink.ClientError
import WatchLink.Wire.Numeral
import WatchLink.Wire.Writer

/-!
# Actions

The messages a client can send. An action has no length prefix: where it ends follows from its
operation code and, for a new entry, from the length field. `Action.encode` either yields the whole
message or says why the revision cannot express it. `Action.writeTo` puts a message into a buffer
part by part. It asks all its questions before the first part, so a failed action never leaves part
of a message behind.
-/

namespace WatchLink

set_option autoImplicit false

inductive ActionKind where
  | ping
  | close
  | addEntry
  | removeEntry
  | setWatchMode
  deriving DecidableEq, Repr

inductive Action where
  | ping
  | close
  /-- Stores an entry that expires at `timestamp` (revisions 2 and 3). -/
  | addEntry (timestamp : Int64) (data : Bytes)
  | removeEntry (timestamp : Int64) (id : UInt16)
  | setWatchMode (mode : WatchMode) (tag : Option UInt64)
  deriving DecidableEq, Repr

namespace ActionKind

/-- The operation code of a kind. Closing (revision 1) and adding an entry (revisions 2 and 3) share
theirs. -/
def opcode : ActionKind → UInt8
  | ping => 0
  | close => 2
  | addEntry => 2
  | removeEntry => 4
  | setWatchMode => 7

def name : ActionKind → String
  | ping => "Ping"
  | close => "Close"
  | addEntry => "AddEntry"
  | removeEntry => "RemoveEntry"
  | setWatchMode => "SetWatchMode"

end ActionKind

namespace Action

def kind : Action → ActionKind
  | ping => .ping
  | close => .close
  | addEntry _ _ => .addEntry
  | removeEntry _ _ => .removeEntry
  | setWatchMode _ _ => .setWatchMode

def dataLimit : Nat := 65535

def opcodeBytes (revision : Revision) (kind : ActionKind) : Bytes :=
  BigEndian.digits revision.opcodeWidth kind.opcode.toNat

/-- The tag of a watch mode as far as the revision sends it: only the tagged mode carries one, and
only where tags exist. -/
def sentTag (revision : Revision) (mode : WatchMode) (tag : Option UInt64) : Option UInt64 :=
  if revision.supportsTags ∧ mode = .tagged then tag else none

/-- The bytes a message of this kind and content occupies. The count is defined for every action,
whether or not the revision can express it. -/
def encodedLength (revision : Revision) : Action → Nat
  | ping | close => revision.opcodeWidth
  | addEntry _ data => 1 + 8 + 2 + data.length
  | removeEntry _ _ => 1 + 8 + 2
  | setWatchMode mode tag => 2 + if (sentTag revision mode tag).isSome then 8 else 0

/-- The bytes of an action, or why the revision has none for it. Whether the revision knows the kind
is asked before anything is asked about the content. -/
def encode (revision : Revision) : Action → Except ClientError Bytes
  | ping => .ok (opcodeBytes revision .ping)
  | close =>
      if revision.supportsClose then .ok (opcodeBytes revision .close)
      else .error (.unsupported "Close" revision)
  | addEntry timestamp data =>
      if !revision.supportsEntries then .error (.unsupported "AddEntry" revision)
      else if dataLimit < data.length then .error (.dataTooLong data.length)
      else .ok (opcodeBytes revision .addEntry ++ Numeral.signed.encode timestamp ++
        Numeral.short.encode (UInt16.ofNat data.length) ++ data)
  | removeEntry timestamp id =>
      if !revision.supportsEntries then .error (.unsupported "RemoveEntry" revision)
      else .ok (opcodeBytes revision .removeEntry ++ Numeral.signed.encode timestamp ++
        Numeral.short.encode id)
  | setWatchMode mode tag =>
      if !revision.supportsWatchMode then .error (.unsupported "SetWatchMode" revision)
      else match revision.watchModeByte mode with
        | none => .error (.unsupported s!"watch mode '{mode.word}'" revision)
        | some byte => .ok (opcodeBytes revision .setWatchMode ++ Numeral.byte.encode byte ++
            ((sentTag revision mode tag).map Numeral.long.encode).getD [])

/-- The message of an action, part by part. Each part is put where its turn comes, so the order of
the questions and the parts matters. -/
def write (revision : Revision) : Action → Writer ClientError Unit
  | ping =>
      match revision with
      | .v1 => .put (Numeral.short.encode ActionKind.ping.opcode.toUInt16)
      | .v2 | .v3 => .put (Numeral.byte.encode ActionKind.ping.opcode)
  | close => do
      .demand revision.supportsClose (.unsupported "Close" revision)
      .put (Numeral.short.encode ActionKind.close.opcode.toUInt16)
  | addEntry timestamp data => do
      .demand revision.supportsEntries (.unsupported "AddEntry" revision)
      .demand (data.length ≤ dataLimit) (.dataTooLong data.length)
      .put (Numeral.byte.encode ActionKind.addEntry.opcode)
      .put (Numeral.signed.encode timestamp)
      .put (Numeral.short.encode (UInt16.ofNat data.length))
      .put data
  | removeEntry timestamp id => do
      .demand revision.supportsEntries (.unsupported "RemoveEntry" revision)
      .put (Numeral.byte.encode ActionKind.removeEntry.opcode)
      .put (Numeral.signed.encode timestamp)
      .put (Numeral.short.encode id)
  | setWatchMode mode tag => do
      .demand revision.supportsWatchMode (.unsupported "SetWatchMode" revision)
      match revision.watchModeByte mode with
      | none => throw (.unsupported s!"watch mode '{mode.word}'" revision)
      | some byte => do
          .put (Numeral.byte.encode ActionKind.setWatchMode.opcode)
          .put (Numeral.byte.encode byte)
          if revision.supportsTags ∧ mode = .tagged then
            match tag with
            | some tag => .put (Numeral.long.encode tag)
            | none => pure ()

def writeTo (revision : Revision) (action : Action) (buffer : Bytes) :
    Except ClientError Unit × Bytes :=
  (action.write revision).onto buffer

end Action

end WatchLink
