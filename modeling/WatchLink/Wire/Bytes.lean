/-!
# Byte strings

Everything on the wire is a list of bytes. The reader of a socket sees the incoming stream in pieces
of bounded size; `Bytes.pieces` is that cutting, and `flatten_pieces` says that it neither loses nor
reorders a byte.
-/

namespace WatchLink

set_option autoImplicit false

abbrev Bytes := List UInt8

namespace Bytes

def hexDigit (value : Nat) : Char :=
  if value < 10 then Char.ofNat (48 + value) else Char.ofNat (87 + value)

def hexOf (byte : UInt8) : String :=
  String.ofList [hexDigit (byte.toNat / 16), hexDigit (byte.toNat % 16)]

/-- A bracketed, comma-separated listing of bytes, such as `[06, ff]`. -/
def listing (bytes : Bytes) : String :=
  "[" ++ String.intercalate ", " (bytes.map hexOf) ++ "]"

/-- The pieces in which a reader with a buffer of `limit` bytes takes up `bytes`. A reader without a
buffer takes up nothing. -/
def pieces (limit : Nat) (bytes : Bytes) : List Bytes :=
  if bytes = [] ∨ limit = 0 then []
  else bytes.take limit :: pieces limit (bytes.drop limit)
termination_by bytes.length
decreasing_by
  rename_i pending
  have nonempty : 0 < bytes.length := List.length_pos_iff.mpr fun empty => pending (Or.inl empty)
  have positive : 0 < limit := Nat.pos_of_ne_zero fun zero => pending (Or.inr zero)
  simp only [List.length_drop]
  omega

theorem flatten_pieces (limit : Nat) (positive : 0 < limit) (bytes : Bytes) :
    (pieces limit bytes).flatten = bytes := by
  fun_induction pieces limit bytes with
  | case1 bytes finished =>
      rcases finished with empty | zero
      · simp [empty]
      · omega
  | case2 bytes pending ih =>
      simp [ih, List.take_append_drop]

theorem length_of_mem_pieces (limit : Nat) (bytes piece : Bytes)
    (member : piece ∈ pieces limit bytes) : 0 < piece.length ∧ piece.length ≤ limit := by
  fun_induction pieces limit bytes with
  | case1 => simp at member
  | case2 bytes pending ih =>
      rcases List.mem_cons.mp member with here | later
      · subst here
        have nonempty : 0 < bytes.length :=
          List.length_pos_iff.mpr fun empty => pending (Or.inl empty)
        simp only [List.length_take]
        omega
      · exact ih later

end Bytes

end WatchLink
