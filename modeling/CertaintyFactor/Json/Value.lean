import CertaintyFactor.Decimal.Layout

/-!
# JSON values

A document as a tree. Whole numbers and numbers with a point or an exponent are told apart, as they
are in writing. The members of an object keep their order.
-/

set_option autoImplicit false

namespace CertaintyFactor

inductive Json where
  | null
  | bool (value : Bool)
  | integer (value : Int)
  | float (value : Binary64)
  | string (text : String)
  | array (items : List Json)
  | object (members : List (String × Json))

namespace Json

instance : Inhabited Json := ⟨null⟩

/-- The value of the first member of an object with the given name. -/
def member? (name : String) : Json → Option Json
  | object members => members.lookup name
  | _ => none

def count (n : Nat) : Json :=
  integer n

/-- An object's member that is left out when it has no value. -/
def optional (name : String) (value : Option Json) : List (String × Json) :=
  value.toList.map fun v => (name, v)

end Json

end CertaintyFactor
