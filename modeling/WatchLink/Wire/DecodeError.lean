import WatchLink.Wire.Bytes

/-!
# Failures of reading

Reading bytes as a value fails for one of two reasons: there are not enough of them, or one of them
is not a value of its kind.
-/

namespace WatchLink

set_option autoImplicit false

inductive DecodeError where
  | tooShort (expected actual : Nat)
  /-- A byte that stands for nothing of the kind `what`. -/
  | invalid (what : String) (value : UInt8)
  deriving DecidableEq, Repr

namespace DecodeError

def message : DecodeError → String
  | tooShort expected actual => s!"buffer too short: expected {expected} bytes, got {actual}"
  | invalid what value => s!"invalid {what}: 0x{Bytes.hexOf value}"

end DecodeError

end WatchLink
