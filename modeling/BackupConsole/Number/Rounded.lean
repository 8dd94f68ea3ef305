import BackupConsole.Number.Shortest

set_option autoImplicit false

namespace BackupConsole.Number

-- Digits of `num / den` rounded to `n + 1` significant ones, and the number of them that stand
-- before the point.
def significant (num den n : Nat) : List Char × Int :=
  if num = 0 then (List.replicate (n + 1) '0', 1)
  else
    let k := decimalMagnitude num den
    let (a, b) := scaleTen num den (n + 1 - k)
    let digits := Nat.toDigits 10 (roundEven a b)
    -- Rounding up to a power of ten gives one digit more.
    if digits.length = n + 2 then (digits.take (n + 1), k + 1) else (digits, k)

def roundedBy (write : Nat → Nat → List Char) (x : Float) : String :=
  match view x with
  | ⟨_, .nan⟩ => "nan"
  | ⟨negative, .infinite⟩ => withSign negative "inf".toList
  | ⟨negative, .finite m q⟩ =>
    let (a, b) := scaleTwo m 1 q
    withSign negative (write a b)

def fixedText (places : Nat) : Float → String :=
  roundedBy fun num den =>
    let digits := Nat.toDigits 10 (roundEven (num * Nat.pow 10 places) den)
    let digits := List.replicate (places + 1 - digits.length) '0' ++ digits
    let (whole, part) := positional digits (digits.length - places)
    if part.isEmpty then whole else whole ++ '.' :: part

def exponentText (places : Nat) : Float → String :=
  roundedBy fun num den =>
    let (digits, k) := significant num den places
    exponential digits k

-- At most `precision` significant digits; positional for magnitudes from 1e-4 up to where all of
-- them stand before the point.
def generalText (precision : Nat) : Float → String :=
  roundedBy fun num den =>
    let precision := max precision 1
    let (digits, k) := significant num den (precision - 1)
    let digits := stripZeros digits
    let digits := if digits.isEmpty then ['0'] else digits
    if -4 < k && k ≤ precision then
      let (whole, part) := positional digits k
      if part.isEmpty then whole else whole ++ '.' :: part
    else exponential digits k

end BackupConsole.Number
