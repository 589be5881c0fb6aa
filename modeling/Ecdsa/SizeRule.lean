import Ecdsa.Numeral

/-!
How many bytes a byte string may have.
-/

namespace Ecdsa

inductive SizeRule where
  | any
  | exactly (size : Numeral)
  | oneOf (sizes : List Numeral)
  | either (size₁ size₂ : Nat)
deriving Repr

namespace SizeRule

def allows (size : Nat) : SizeRule → Bool
  | any => true
  | exactly wanted => wanted.toInt == size
  | oneOf sizes => sizes.any (·.toInt == size)
  | either size₁ size₂ => size == size₁ || size == size₂

/-- The sizes as they stand in an error message. -/
def text : SizeRule → String
  | any => "any number"
  | exactly wanted => wanted.text
  | oneOf sizes => "[" ++ ", ".intercalate (sizes.map Numeral.text) ++ "]"
  | either size₁ size₂ => s!"({size₁}, {size₂})"

/-- The integers that `text` writes in decimal. -/
def decimals : SizeRule → List Int
  | any => []
  | exactly wanted => [wanted.toInt]
  | oneOf sizes => sizes.map Numeral.toInt
  | either size₁ size₂ => [size₁, size₂]

end SizeRule

end Ecdsa
