import EditorConfig.Value.Numeral

/-! Numbers with a decimal point: fixed, with an exponent, or in whichever of the two ways is
shorter. All digits are exact, up to the last one, which is rounded, a tie going to the even
neighbour. -/

namespace EditorConfig.Template

/-- Digits on either side of a point, which is only shown if something follows it, or always. -/
def pointed (always : Bool) (whole fraction : List Char) : List Char :=
  if fraction = [] ∧ !always then whole else whole ++ '.' :: fraction

/-- After so many places, and after so many significant digits, all digits of a float are zeros. -/
def lastPlace : Nat := 1074

/-- A number with so many places after the point. -/
def fixed (always : Bool) (places : Nat) (x : Fraction) : List Char :=
  let exact := min places lastPlace
  let digits := Nat.toDigits 10 (x.scale 10 exact).nearest
  let padded := List.replicate (exact + 1 - digits.length) '0' ++ digits
  pointed always (padded.take (padded.length - exact))
    (padded.drop (padded.length - exact) ++ List.replicate (places - exact) '0')

/-- The power of ten of the first digit. -/
def decimalPower (x : Fraction) : Int :=
  let guess : Int := (Nat.toDigits 10 x.num).length - (Nat.toDigits 10 x.den).length
  let scaled := x.scale 10 (-guess)
  if scaled.den ≤ scaled.num then guess else guess - 1

/-- So many significant digits, and the power of ten of the first of them. -/
def significant (count : Nat) (x : Fraction) : List Char × Int :=
  if x.num = 0 then (List.replicate count '0', 0)
  else
    let exact := min count lastPlace
    let power := decimalPower x
    let digits := Nat.toDigits 10 (x.scale 10 (exact - 1 - power)).nearest
    let zeros := List.replicate (count - exact) '0'
    if exact < digits.length then (digits.take exact ++ zeros, power + 1)
    else (digits ++ zeros, power)

/-- A number with one digit before the point and an exponent of two digits or more. -/
def scientific (always : Bool) (digits : List Char) (power : Int) : List Char :=
  let exponent := Nat.toDigits 10 power.natAbs
  pointed always (digits.take 1) (digits.drop 1) ++ ['e', if power < 0 then '-' else '+'] ++
    List.replicate (2 - exponent.length) '0' ++ exponent

/-- A number with so many significant digits, with an exponent if it is small or not less than ten
to the power of `limit`. Zeros at the end are left out, unless the point is shown always; `dotted`
says that a digit follows the point anyway. -/
def general (always dotted : Bool) (count : Nat) (limit : Int) (x : Fraction) : List Char :=
  let (digits, power) := significant (if always then count else min count lastPlace) x
  let kept := if always then digits else
    digits.take 1 ++ ((digits.drop 1).reverse.dropWhile (· == '0')).reverse
  if power < -4 ∨ limit ≤ power then scientific always kept power
  else if power < 0 then
    pointed always ['0'] (List.replicate (power.natAbs - 1) '0' ++ kept)
  else
    let whole := kept.take (power.toNat + 1)
    let fraction := kept.drop (power.toNat + 1)
    pointed always (whole ++ List.replicate (power.toNat + 1 - whole.length) '0')
      (if dotted && fraction.isEmpty then ['0'] else fraction)

end EditorConfig.Template
