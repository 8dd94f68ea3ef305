set_option autoImplicit false

namespace BackupConsole.Number

inductive Magnitude
  | nan
  | infinite
  | finite (significand : Nat) (exponent : Int)
  deriving DecidableEq, Repr

structure View where
  negative : Bool
  magnitude : Magnitude
  deriving DecidableEq, Repr

def leadingBit : Nat := 0x10000000000000

def view (x : Float) : View :=
  let bits := x.toBits.toNat
  let exponent : Nat := bits / leadingBit % 0x800
  let fraction : Nat := bits % leadingBit
  { negative := 0x8000000000000000 ≤ bits
    magnitude :=
      if exponent = 2047 then if fraction = 0 then .infinite else .nan
      else if exponent = 0 then .finite fraction (-1074)
      else .finite (leadingBit + fraction) ((exponent : Int) - 1075) }

def scaleTwo (num den : Nat) (shift : Int) : Nat × Nat :=
  if 0 ≤ shift then (num * Nat.pow 2 shift.toNat, den)
  else (num, den * Nat.pow 2 (-shift).toNat)

def roundEven (num den : Nat) : Nat :=
  let floor := num / den
  let rest := 2 * (num % den)
  if rest < den then floor
  else if den < rest then floor + 1
  else if floor % 2 = 0 then floor else floor + 1

def infinity : Float := Float.ofBits 0x7ff0000000000000

def notANumber : Float := Float.ofBits 0x7ff8000000000000

def nearest (num den : Nat) : Float :=
  if num = 0 then Float.ofBits 0
  else
    let guess : Int := (num.log2 : Int) - den.log2 - 52
    let (a, b) := scaleTwo num den (-guess)
    let exponent := max (-1074) (if a / b < leadingBit then guess - 1 else guess)
    let (a, b) := scaleTwo num den (-exponent)
    let m := roundEven a b
    -- Rounding up to a power of two moves to the next exponent.
    let (m, exponent) := if m = 2 * leadingBit then (leadingBit, exponent + 1) else (m, exponent)
    if 971 < exponent then infinity
    else if m < leadingBit then Float.ofBits (UInt64.ofNat m)
    else Float.ofBits (UInt64.ofNat ((exponent + 1075).toNat * leadingBit + (m - leadingBit)))

/-- `mantissa * 10 ^ exponent`. Exponents far outside the range of doubles are settled by the
number of digits alone. -/
def ofDecimal (negative : Bool) (mantissa : Nat) (exponent : Int) : Float :=
  let digits := (Nat.toDigits 10 mantissa).length
  let size :=
    if mantissa = 0 then Float.ofBits 0
    else if 310 < exponent + digits then infinity
    else if exponent + digits < -330 then Float.ofBits 0
    else if 0 ≤ exponent then nearest (mantissa * Nat.pow 10 exponent.toNat) 1
    else nearest mantissa (Nat.pow 10 (-exponent).toNat)
  if negative then -size else size

-- The double nearest to an integer, or nothing where it would be infinite.
def ofInt? (n : Int) : Option Float :=
  let size := nearest n.natAbs 1
  if size.toBits = infinity.toBits then none else some (if n < 0 then -size else size)

def fraction? (x : Float) : Option (Int × Nat) :=
  match view x with
  | ⟨negative, .finite m q⟩ =>
    let (num, den) := scaleTwo m 1 q
    some (if negative then -(num : Int) else num, den)
  | _ => none

def truncate? (x : Float) : Option Int := (fraction? x).map fun (num, den) => num.tdiv den

def isWhole (x : Float) : Bool :=
  match fraction? x with
  | some (num, den) => num % den = 0
  | none => false

end BackupConsole.Number
