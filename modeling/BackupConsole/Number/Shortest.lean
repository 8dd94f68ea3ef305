import BackupConsole.Number.Double

/-!
Decimal text of doubles. The plain form has the fewest digits that read back as the same double,
of those the nearest, and of two equally near the even one; it is positional for magnitudes from
1e-4 up to 1e16.
-/

set_option autoImplicit false

namespace BackupConsole.Number

structure Scientific where
  digits : Nat
  exponent : Int
  deriving DecidableEq, Repr

def scaleTen (num den : Nat) (shift : Int) : Nat × Nat :=
  if 0 ≤ shift then (num * Nat.pow 10 shift.toNat, den)
  else (num, den * Nat.pow 10 (-shift).toNat)

private def smallestPower (num den : Nat) : Nat → Nat → Nat
  | 0, j => j
  | fuel + 1, j => if den ≤ num * Nat.pow 10 j then j else smallestPower num den fuel (j + 1)

def decimalMagnitude (num den : Nat) : Int :=
  if den ≤ num then (Nat.toDigits 10 (num / den)).length
  else 1 - (smallestPower num den 400 0 : Int)

/-- The fractions that round to `m * 2 ^ q`: lower end, upper end, and whether the ends count. The
gap below a power of two is half as wide. -/
structure Interval where
  low : Nat
  high : Nat
  exponent : Int
  closed : Bool

def roundsTo (m : Nat) (q : Int) : Interval :=
  { low := if m = leadingBit && decide (-1074 < q) then 4 * m - 1 else 4 * m - 2
    high := 4 * m + 2
    exponent := q - 2
    closed := m % 2 = 0 }

def Interval.holds (i : Interval) (d : Nat) (e : Int) : Bool :=
  let (a, b) := scaleTen d 1 e
  let (a, b) := scaleTwo a b (-i.exponent)
  if i.closed then i.low * b ≤ a && a ≤ i.high * b else i.low * b < a && a < i.high * b

private def shortestFrom (m : Nat) (q : Int) (k : Int) : Nat → Nat → Scientific
  | 0, n => ⟨m, n⟩
  | fuel + 1, n =>
    let e := k - n
    let (a, b) := scaleTwo m 1 q
    let (a, b) := scaleTen a b (-e)
    let floor := a / b
    let interval := roundsTo m q
    let below := interval.holds floor e
    let above := interval.holds (floor + 1) e
    -- Of two neighbours that read back, the nearer.
    if below && above then ⟨roundEven a b, e⟩
    else if below then ⟨floor, e⟩
    else if above then ⟨floor + 1, e⟩
    else shortestFrom m q k fuel (n + 1)

/-- The shortest decimal that reads back as `m * 2 ^ q`. Seventeen digits always do. -/
def shortest (m : Nat) (q : Int) : Scientific :=
  let (a, b) := scaleTwo m 1 q
  shortestFrom m q (decimalMagnitude a b) 18 1

def stripZeros (digits : List Char) : List Char :=
  (digits.reverse.dropWhile (· = '0')).reverse

def positional (digits : List Char) (k : Int) : List Char × List Char :=
  if k ≤ 0 then (['0'], List.replicate (-k).toNat '0' ++ digits)
  else
    let whole := digits.take k.toNat
    (whole ++ List.replicate (k.toNat - whole.length) '0', digits.drop k.toNat)

def exponential (digits : List Char) (k : Int) : List Char :=
  let e := k - 1
  let power := Nat.toDigits 10 e.natAbs
  digits.take 1 ++ (if digits.length ≤ 1 then [] else '.' :: digits.drop 1)
    ++ ['e', if e < 0 then '-' else '+'] ++ (if power.length < 2 then ['0'] else []) ++ power

def withSign (negative : Bool) (cs : List Char) : String :=
  String.ofList (if negative then '-' :: cs else cs)

def plainText (x : Float) : String :=
  match view x with
  | ⟨_, .nan⟩ => "nan"
  | ⟨negative, .infinite⟩ => withSign negative "inf".toList
  | ⟨negative, .finite m q⟩ =>
    if m = 0 then withSign negative "0.0".toList
    else
      let s := shortest m q
      let digits := Nat.toDigits 10 s.digits
      let k := s.exponent + digits.length
      let digits := stripZeros digits
      if -4 < k && k ≤ 16 then
        let (whole, part) := positional digits k
        withSign negative (whole ++ '.' :: (if part.isEmpty then ['0'] else part))
      else withSign negative (exponential digits k)

end BackupConsole.Number
