import Ecdsa.Octets

/-!
Bytes read one part after the other. Sizes and positions are machine words of 64 bits with a sign.
-/

namespace Ecdsa

-- Powers are those of the core library, whatever else is imported.
attribute [local instance (high)] instPowNat

/-- Bytes, and the position from which they are read next, which may lie past their end. -/
structure ByteStream where
  bytes : List UInt8
  position : Nat
deriving DecidableEq, Repr

namespace ByteStream

def ofBytes (bytes : List UInt8) : ByteStream :=
  ⟨bytes, 0⟩

def ofOctets (octets : Octets) : Except Error ByteStream :=
  ofBytes <$> octets.read

/-- The bytes not read yet. -/
def rest (stream : ByteStream) : List UInt8 :=
  stream.bytes.drop stream.position

/-- Reads that many bytes, or as many as are left. -/
def take (size : Nat) (stream : ByteStream) : List UInt8 × ByteStream :=
  let part := stream.rest.take size
  (part, { stream with position := stream.position + part.length })

/-- The integer is a machine word. -/
def IsWord (i : Int) : Prop :=
  -2 ^ (63 : Nat) ≤ i ∧ i < 2 ^ (63 : Nat)

instance : DecidablePred IsWord := fun i =>
  inferInstanceAs (Decidable (-2 ^ (63 : Nat) ≤ i ∧ i < 2 ^ (63 : Nat)))

/-- Reads that many bytes, or as many as are left; a negative size asks for all of them. -/
def read (size : Int) (stream : ByteStream) : Except Error (List UInt8 × ByteStream) :=
  if ¬ IsWord size then .error .readSizeTooLarge
  else .ok (stream.take (if size < 0 then stream.rest.length else size.toNat))

/-- Moves to a position. -/
def seek (position : Int) (stream : ByteStream) : Except Error ByteStream :=
  if ¬ IsWord position then .error .positionTooLarge
  else if position < 0 then reject (.negativePosition position)
  else .ok { stream with position := position.toNat }

end ByteStream

end Ecdsa
