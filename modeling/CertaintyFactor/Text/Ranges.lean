/-!
# Ranges of code points

A class of characters is a list of inclusive ranges of code points.
-/

set_option autoImplicit false

namespace CertaintyFactor.Text

/-- Inclusive ranges of code points. -/
abbrev Ranges := List (Nat × Nat)

def Ranges.has (ranges : Ranges) (c : Char) : Bool :=
  ranges.any fun (first, last) => first ≤ c.toNat && c.toNat ≤ last

end CertaintyFactor.Text
