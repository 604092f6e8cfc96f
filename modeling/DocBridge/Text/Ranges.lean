/-!
# Tables of code points

A Unicode property is given as the list of the ranges of code points that have it, in increasing
order and without overlap.
-/

namespace DocBridge.Text

abbrev Ranges := List (Nat × Nat)

namespace Ranges

def contains (table : Ranges) (c : Char) : Bool :=
  table.any fun (first, last) => first ≤ c.toNat && c.toNat ≤ last

end Ranges

end DocBridge.Text
