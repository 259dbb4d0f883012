/-!
# Roles

Who acts on a catalog: experts keep it, users only ask it.
-/

set_option autoImplicit false

namespace CertaintyFactor

/-- Who is acting. -/
inductive Role where
  | expert
  | user
deriving DecidableEq, Repr

namespace Role

instance : Inhabited Role := ⟨user⟩

def canEditCatalog : Role → Bool
  | expert => true
  | user => false

def name : Role → String
  | expert => "expert"
  | user => "user"

def ofName? (text : String) : Option Role :=
  [expert, user].find? (·.name == text)

end Role

end CertaintyFactor
