import Inspector.Reflection.Error

/-!
# Values of the host

A value is a primitive with its kind, `null`, or a reference to an object. Floating-point numbers
are held by their bits.
-/

namespace Inspector

inductive Scalar where
  | byte (value : Int8)
  | short (value : Int16)
  | int (value : Int32)
  | long (value : Int64)
  | float (bits : UInt32)
  | double (bits : UInt64)
  | char (unit : UInt16)
  | boolean (value : Bool)
deriving DecidableEq, Repr

inductive HostValue where
  | scalar (value : Scalar)
  | null
  | object (ref : ObjectRef)
deriving DecidableEq, Repr

/-! ## Comparing numbers -/

/-- Whether two floating-point numbers of the given layout are numerically equal: no number equals
a NaN, and both zeros are equal. -/
def sameNumber (fractionBits exponentBits a b : Nat) : Bool :=
  let magnitude (n : Nat) := n % (1 <<< (fractionBits + exponentBits))
  let infinity := ((1 <<< exponentBits) - 1) <<< fractionBits
  let isNaN (n : Nat) := infinity < magnitude n
  !isNaN a && !isNaN b && (a == b || (magnitude a == 0 && magnitude b == 0))

/-- Whether two primitive values are of one kind and equal. -/
def Scalar.same : Scalar → Scalar → Bool
  | float a, float b => sameNumber 23 8 a.toNat b.toNat
  | double a, double b => sameNumber 52 11 a.toNat b.toNat
  | a, b => a == b

/-- Whether two values are equal, with numbers compared as numbers. -/
def HostValue.same : HostValue → HostValue → Bool
  | scalar a, scalar b => a.same b
  | a, b => a == b

/-! ## Widening -/

/-- The bits of a 32-bit floating-point number in 64 bits. Every number keeps its value; a NaN
keeps its payload and becomes a quiet one. -/
def widenFloat (bits : UInt32) : UInt64 :=
  let n := bits.toNat
  let sign := (n >>> 31) <<< 63
  let exponent := (n >>> 23) % 256
  let fraction := n % (1 <<< 23)
  let magnitude :=
    if exponent = 255 then
      if fraction = 0 then 2047 <<< 52
      else (2047 <<< 52) + (1 <<< 51) + ((fraction % (1 <<< 22)) <<< 29)
    else if exponent = 0 then
      if fraction = 0 then 0
      else
        let top := Nat.log2 fraction
        ((top + 874) <<< 52) + ((fraction - (1 <<< top)) <<< (52 - top))
    else ((exponent + 896) <<< 52) + (fraction <<< 29)
  UInt64.ofNat (sign + magnitude)

end Inspector
