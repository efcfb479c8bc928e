import WatchLink.Quotation.Extending
import WatchLink.Quotation.Unprinted

/-!
# Quotation

A text as it is shown to a programmer: in quotation marks, with a backslash before everything that
could be misread. A character that could not be seen, or not apart from its neighbours, is written
by its code.
-/

namespace WatchLink

set_option autoImplicit false

namespace Quotation

/-- The letters of the Korean script that only fill an empty place in a syllable. -/
def fillers : Ranges := [(0x115F, 0x1160), (0x3164, 0x3164), (0xFFA0, 0xFFA0)]

def isHidden (letter : Char) : Bool :=
  unprinted.contains letter || extending.contains letter || fillers.contains letter

def hexadecimal (value : Nat) : String := String.ofList (Nat.toDigits 16 value)

def escaped (letter : Char) : String :=
  match letter with
  | '\x00' => "\\0"
  | '\t' => "\\t"
  | '\n' => "\\n"
  | '\r' => "\\r"
  | '\"' => "\\\""
  | '\\' => "\\\\"
  | _ =>
      if isHidden letter then "\\u\x7b" ++ hexadecimal letter.toNat ++ "\x7d"
      else letter.toString

def quoted (text : String) : String := "\"" ++ String.join (text.toList.map escaped) ++ "\""

end Quotation

end WatchLink
