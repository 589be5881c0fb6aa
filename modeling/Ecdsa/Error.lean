import Ecdsa.Point
import Ecdsa.SizeRule
import Ecdsa.Text.Quoted

/-!
What can go wrong, by cause. Every cause has a kind, which callers react to, and a message.

A message that would show an integer of too many decimal digits cannot be written: `reject` then
gives the error about the digits instead.
-/

namespace Ecdsa

/-- The two scalars of a signature. -/
inductive Component where
  | r
  | s
deriving DecidableEq, Repr

def Component.name : Component → String
  | r => "r"
  | s => "s"

inductive Error where
  -- sizes, texts and numbers
  | wrongSize (size : Nat) (rule : SizeRule)
  | hexDigitExpected (position : Nat)
  | notAnInteger (text : String)
  | tooManyDigits
  | negativeInteger (i : Int)
  | integerTooLarge (width : Numeral) (i : Nat)
  | negativeByte
  | byteTooLarge
  | negativePosition (position : Int)
  | positionTooLarge
  | readSizeTooLarge
  | widthTooLarge
  | tooManyBytes
  | outOfMemory
  -- arithmetic modulo a number
  | divisionByZero
  | noInverseOfZero (modulus : Numeral)
  | notInvertible
  -- points and their encodings
  | notTwoCoordinates
  | missingCoordinate
  | ordinateOutOfRange (y : Int)
  | abscissaOutOfRange (x : Numeral)
  | noOrdinate (x : Numeral)
  | parityNotBinary
  | notOnCurve
  | noArithmetic
  | infiniteDoubling
  | resultNotOnCurve
  | negativeScalar (m : Int)
  | infinityHasNoEncoding
  | wrongCompressedSize (size expected : Nat)
  | wrongUncompressedSize (size expected : Nat)
  | noEncodedOrdinate (x : Nat)
  | encodedPointNotOnCurve (Q : Point)
  | notAPoint (bytes : List UInt8)
  | keyIntegerOutOfRange
  -- keys
  | notAPrivateKey
  | privateKeyOutOfRange
  | baseScalarOutOfRange
  | infinitePublicKey
  | publicKeyMismatch
  | curveMismatch (name : String)
  | infiniteKey
  -- signatures
  | componentOutOfRange (component : Component) (value : Numeral)
  | negativeComponent (component : Component) (value : Int)
  | wrongComponentSize (component : Component) (size : Nat)
  | zeroComponent (component : Component)
  | noUsableNonce (attempts : Nat)
  | infiniteEphemeralPoint
  | verificationFailed
  | recoveryIdNotBinary (shown : String)
  | missingMessageHash
  | indicatorNotBinary (shown : String)
  | wrongSignatureLength (size expected : Nat)
  | nothingRecovered
  | noRecoveryId (attempts mismatches : Nat)
  -- the supply of random numbers, and values that are not to be changed
  | drawsExhausted
  | immutableField (name : String)
deriving Repr

namespace Error

inductive Kind where
  /-- An argument was read, and a check of this library refuses it. -/
  | rejected
  /-- A text or a number cannot be read, written or computed with. -/
  | unreadable
  /-- Coordinates do not make a point. -/
  | misshapen
  /-- An operation came to no result, or to a bad one. -/
  | unsuccessful
  /-- A number does not fit its byte or machine word. -/
  | overflow
  /-- A value would have to be changed. -/
  | immutable
  | divisionByZero
  /-- The curve does not support what is asked of it. -/
  | unsupported
  /-- A result shows that the points it was computed from were not on the curve. -/
  | inconsistent
  | missingCoordinate
  | drawsExhausted
  | outOfMemory
deriving DecidableEq, Repr

/-- Most causes are checks that refuse an argument. -/
def kind : Error → Kind
  | hexDigitExpected _ | notAnInteger _ | tooManyDigits | negativePosition _ | notInvertible =>
    .unreadable
  | negativeByte | byteTooLarge | positionTooLarge | readSizeTooLarge | widthTooLarge
  | tooManyBytes => .overflow
  | outOfMemory => .outOfMemory
  | notTwoCoordinates => .misshapen
  | missingCoordinate => .missingCoordinate
  | divisionByZero => .divisionByZero
  | noArithmetic | infiniteDoubling => .unsupported
  | resultNotOnCurve => .inconsistent
  | baseScalarOutOfRange | zeroComponent _ | noUsableNonce _ | infiniteEphemeralPoint
  | verificationFailed | noRecoveryId _ _ => .unsuccessful
  | drawsExhausted => .drawsExhausted
  | immutableField _ => .immutable
  | _ => .rejected

/-- The error blames the value of an argument. -/
def BlamesValue (e : Error) : Prop :=
  e.kind = .rejected ∨ e.kind = .unreadable

instance : DecidablePred BlamesValue := fun e =>
  inferInstanceAs (Decidable (e.kind = .rejected ∨ e.kind = .unreadable))

def message : Error → String
  | wrongSize size rule => s!"invalid size: {size} bytes instead of {rule.text}"
  | hexDigitExpected position =>
    s!"non-hexadecimal number found in fromhex() arg at position {position}"
  | notAnInteger text =>
    "invalid literal for int() with base 16: " ++
      String.ofList ((Text.quoted text).toList.take 200)
  | tooManyDigits =>
    s!"Exceeds the limit ({decimalDigitLimit} digits) for integer string conversion; " ++
      "use sys.set_int_max_str_digits() to increase the limit"
  | negativeInteger i => s!"negative integer: {i}"
  | integerTooLarge width i =>
    s!"integer too large for {width.text} bytes: '{Hexadecimal.grouped i}'"
  | negativeByte => "can't convert negative int to unsigned"
  | byteTooLarge => "int too big to convert"
  | negativePosition position => s!"negative seek value {position}"
  | positionTooLarge | widthTooLarge => "Python int too large to convert to C ssize_t"
  | readSizeTooLarge => "cannot fit 'int' into an index-sized integer"
  | tooManyBytes => "byte string is too large"
  | outOfMemory => "out of memory"
  | divisionByZero => "division by zero"
  | noInverseOfZero modulus => s!"No inverse for 0 mod {modulus.display}"
  | notInvertible => "base is not invertible for the given modulus"
  | notTwoCoordinates => "point must be a tuple[int, int]"
  | missingCoordinate => "a coordinate is missing"
  | ordinateOutOfRange y => s!"y-coordinate not in 1..p-1: {(Numeral.int y).display}"
  | abscissaOutOfRange x => s!"x-coordinate not in 0..p-1: {x.display}"
  | noOrdinate x => s!"invalid x-coordinate: {x.display}"
  | parityNotBinary => "odd1even0 must be bool or 1/0"
  | notOnCurve => "point not on curve"
  | noArithmetic => "the curve has no arithmetic"
  | infiniteDoubling => "a doubling of the generator is infinite"
  | resultNotOnCurve => "the result is not on the curve"
  | negativeScalar m => s!"negative m: {Hexadecimal.plain m}"
  | infinityHasNoEncoding => "no bytes representation for infinity point"
  | wrongCompressedSize size expected =>
    s!"invalid size for compressed point: {size} instead of {expected}"
  | wrongUncompressedSize size expected =>
    s!"invalid size for uncompressed point: {size} instead of {expected}"
  | noEncodedOrdinate x => s!"invalid x-coordinate: '{Hexadecimal.grouped x}'"
  | encodedPointNotOnCurve Q => s!"point not on curve: ({Q.x}, {Q.y})"
  | notAPoint bytes => s!"not a point: {Text.quotedBytes bytes}"
  | keyIntegerOutOfRange => "public key integer out of range"
  | notAPrivateKey => "not a private key"
  | privateKeyOutOfRange => "private key not in 1..n-1"
  | baseScalarOutOfRange => "private key not in 1..n-1"
  | infinitePublicKey => "INF is not a valid public key"
  | publicKeyMismatch => "public key does not match private key"
  | curveMismatch name => s!"curve mismatch: {name}"
  | infiniteKey => "not a valid public key: INF"
  | componentOutOfRange component value =>
    s!"scalar {component.name} not in 1..n-1: {value.display}"
  | negativeComponent component value => s!"{component.name} must be positive: {value}"
  | wrongComponentSize component size =>
    s!"invalid {component.name} size: {size} bytes instead of 32"
  | zeroComponent component => s!"failed to sign: {component.name} = 0"
  | noUsableNonce attempts => s!"failed to sign: no valid nonce in {attempts} attempts"
  | infiniteEphemeralPoint => "invalid (INF) key"
  | verificationFailed => "signature verification failed"
  | recoveryIdNotBinary shown => s!"key_id must be 0 or 1: {shown}"
  | missingMessageHash => "msg_hash cannot be None"
  | indicatorNotBinary shown => s!"invalid recovery indicator: {shown}"
  | wrongSignatureLength size expected =>
    s!"invalid signature length: {size} instead of {expected}"
  | nothingRecovered => "no public key can be recovered from the signature"
  | noRecoveryId attempts mismatches =>
    s!"no recovery id found in {attempts} attempts" ++
      if mismatches = 0 then ""
      else s!", {mismatches} of them recovered only keys not matching the key pair"
  | drawsExhausted => "no random number left"
  | immutableField name => s!"cannot assign to field {Text.quoted name}"

/-- The integers of any size that the message shows in decimal. -/
def decimals : Error → List Int
  | wrongSize _ rule => rule.decimals
  | negativeInteger i => [i]
  | integerTooLarge width _ => [width.toInt]
  | negativePosition position => [position]
  | noInverseOfZero modulus => modulus.displayedDecimals
  | ordinateOutOfRange y => (Numeral.int y).displayedDecimals
  | abscissaOutOfRange x => x.displayedDecimals
  | noOrdinate x => x.displayedDecimals
  | encodedPointNotOnCurve Q => [Q.x, Q.y]
  | componentOutOfRange _ value => value.displayedDecimals
  | negativeComponent _ value => [value]
  | _ => []

end Error

/-- Fails with the error, or with the one about its digits when its message cannot be written. -/
def reject {α : Type} (e : Error) : Except Error α :=
  if ∀ i ∈ e.decimals, HasDecimal i then .error e else .error .tooManyDigits

theorem reject_of_hasDecimal {α : Type} {e : Error} (h : ∀ i ∈ e.decimals, HasDecimal i) :
    (reject e : Except Error α) = .error e :=
  if_pos h

@[simp] theorem reject_ne_ok {α : Type} {e : Error} {a : α} : reject e ≠ .ok a := by
  unfold reject
  split <;> simp

/-- A message that cannot be written changes the error, but not what is blamed. -/
theorem blamesValue_of_reject {α : Type} {e cause : Error}
    (h : (reject e : Except Error α) = .error cause) (he : e.BlamesValue) : cause.BlamesValue := by
  unfold reject at h
  split at h
  · cases h
    exact he
  · cases h
    exact Or.inr rfl

theorem exists_reject_eq_error {α : Type} {e : Error} (h : e.BlamesValue) :
    ∃ cause, (reject e : Except Error α) = .error cause ∧ cause.BlamesValue := by
  cases hcause : (reject e : Except Error α) with
  | ok a => exact absurd hcause reject_ne_ok
  | error cause => exact ⟨cause, rfl, blamesValue_of_reject hcause h⟩

/-! ### Steps that may fail -/

section Steps

variable {α β : Type}

@[simp] theorem ok_bind (a : α) (f : α → Except Error β) : (Except.ok a >>= f) = f a := rfl

@[simp] theorem error_bind (e : Error) (f : α → Except Error β) :
    (Except.error e >>= f) = .error e := rfl

@[simp] theorem reject_bind (e : Error) (f : α → Except Error β) : (reject e >>= f) = reject e := by
  unfold reject
  split <;> rfl

@[simp] theorem pure_eq_ok (a : α) : (pure a : Except Error α) = .ok a := rfl

@[simp] theorem throw_eq_error (e : Error) : (throw e : Except Error α) = .error e := rfl

@[simp] theorem map_ok (f : α → β) (a : α) : f <$> (Except.ok a : Except Error α) = .ok (f a) := rfl

/-- A result can be looked at without its errors. -/
theorem toOption_eq_some_iff {x : Except Error α} {a : α} :
    x.toOption = some a ↔ x = .ok a := by
  cases x <;> simp [Except.toOption]

/-- The kind of the error of a step that fails. -/
def failure? : Except Error α → Option Error.Kind
  | .ok _ => none
  | .error e => some e.kind

/-- The kind of an error can be looked at without the results. -/
theorem failure?_eq_some_iff {x : Except Error α} {kind : Error.Kind} :
    failure? x = some kind ↔ ∃ e, x = .error e ∧ e.kind = kind := by
  cases x <;> simp [failure?]

/-- A step that comes after another has a result if both have. -/
theorem bind_eq_ok_iff {x : Except Error α} {f : α → Except Error β} {b : β} :
    (x >>= f) = .ok b ↔ ∃ a, x = .ok a ∧ f a = .ok b := by
  cases x <;> simp

/-- The same after a check. -/
theorem check_bind_eq_ok_iff {x : Except Error Unit} {y : Unit → Except Error β} {b : β} :
    (x >>= y) = .ok b ↔ x = .ok () ∧ y () = .ok b := by
  cases x <;> simp

/-- A step that comes after another fails if one of them does. -/
theorem bind_eq_error_iff {x : Except Error α} {f : α → Except Error β} {e : Error} :
    (x >>= f) = .error e ↔ x = .error e ∨ ∃ a, x = .ok a ∧ f a = .error e := by
  cases x <;> simp

theorem map_eq_error_iff {f : α → β} {x : Except Error α} {e : Error} :
    f <$> x = .error e ↔ x = .error e := by
  cases x <;> simp [Functor.map, Except.map]

end Steps

end Ecdsa
