import Ecdsa.Ladder

/-!
Powers modulo a number.
-/

namespace Ecdsa.Modular

/-- `a ^ e` modulo `p`, reduced after every product. -/
def power (p a : Int) (e : Nat) : Int :=
  ladder (fun x => x * x % p) (fun x => x * a % p) (1 % p) e

end Ecdsa.Modular
