/-!
# Sets of characters

A set of characters is given by closed ranges of code points, ascending and apart, so that a set has
one such form and its ranges can be counted.
-/

namespace WatchLink

set_option autoImplicit false

namespace Quotation

abbrev Ranges := List (Nat × Nat)

namespace Ranges

def contains (ranges : Ranges) (letter : Char) : Bool :=
  ranges.any fun (first, last) => first ≤ letter.toNat && letter.toNat ≤ last

def count (ranges : Ranges) : Nat :=
  ranges.foldl (fun total (first, last) => total + (last + 1 - first)) 0

def ascendFrom (least : Nat) : Ranges → Bool
  | [] => true
  | (first, last) :: later => least ≤ first && first ≤ last && ascendFrom (last + 2) later

end Ranges

end Quotation

end WatchLink
