import WatchLink.Wire.Bytes

/-!
# Protocol revisions

Three incompatible revisions of the wire format are in use. A link speaks exactly one of them,
chosen before it is opened; what a revision can say, and in how many bytes, is decided here and
nowhere else.
-/

namespace WatchLink

set_option autoImplicit false

inductive Revision where
  | v1
  | v2
  | v3
  deriving DecidableEq, Repr

inductive WatchMode where
  | off
  | all
  /-- The entries that carry one tag (revision 2). -/
  | tagged
  | watching
  deriving DecidableEq, Repr

/-- What a client of revision 1 announces that it is going to do. -/
inductive Purpose where
  | action
  | listen
  deriving DecidableEq, Repr

namespace WatchMode

def word : WatchMode → String
  | off => "none"
  | all => "all"
  | tagged => "tagged"
  | watching => "watching"

def every : List WatchMode := [off, all, tagged, watching]

end WatchMode

namespace Purpose

def byte : Purpose → UInt8
  | action => 0
  | listen => 1

def name : Purpose → String
  | action => "Action"
  | listen => "Listen"

end Purpose

namespace Revision

def name : Revision → String
  | v1 => "V1"
  | v2 => "V2"
  | v3 => "V3"

def title : Revision → String
  | v1 => "rev. 1"
  | v2 => "rev. 2"
  | v3 => "rev. 3"

/-- Whether the client announces its purpose right after connecting. -/
def hasHandshake : Revision → Bool
  | v1 => true
  | v2 | v3 => false

/-- Whether closing is a message; elsewhere the socket is simply shut down. -/
def supportsClose : Revision → Bool
  | v1 => true
  | v2 | v3 => false

def supportsWatchMode : Revision → Bool
  | v1 => false
  | v2 | v3 => true

def supportsEntries : Revision → Bool
  | v1 => false
  | v2 | v3 => true

def supportsTags : Revision → Bool
  | v2 => true
  | v1 | v3 => false

def opcodeWidth : Revision → Nat
  | v1 => 2
  | v2 | v3 => 1

/-- Leading bytes of a chunk that hold the value of a response. -/
def responseWidth : Revision → Nat
  | v1 => 2
  | v2 | v3 => 1

def watchModeByte : Revision → WatchMode → Option UInt8
  | v2, .off => some 0
  | v2, .all => some 1
  | v2, .tagged => some 2
  | v3, .off => some 0
  | v3, .watching => some 1
  | _, _ => none

def watchModeOf : Revision → UInt8 → Option WatchMode
  | v2, 0 => some .off
  | v2, 1 => some .all
  | v2, 2 => some .tagged
  | v3, 0 => some .off
  | v3, 1 => some .watching
  | _, _ => none

theorem watch_mode_of_watch_mode_byte (revision : Revision) (mode : WatchMode) (byte : UInt8)
    (known : revision.watchModeByte mode = some byte) : revision.watchModeOf byte = some mode := by
  cases revision <;> cases mode <;> simp_all [watchModeByte] <;> subst known <;> rfl

end Revision

end WatchLink
