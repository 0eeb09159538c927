import EditorConfig.Value.Basic

/-! The number that a value denotes, where it denotes one. Integers and truth values denote
themselves, a truth value counting as zero or one. A float is given by its shortest digits: the
float is the decimal rounded to a significand of 53 bits, a tie going to the even neighbour. -/

namespace EditorConfig

structure Fraction where
  num : Nat
  den : Nat

namespace Fraction

/-- The fraction times a power of a base. -/
def scale (x : Fraction) (base : Nat) : Int → Fraction
  | .ofNat k => ⟨x.num * Nat.pow base k, x.den⟩
  | .negSucc k => ⟨x.num, x.den * Nat.pow base (k + 1)⟩

/-- The nearest integer, of two the even one. -/
def nearest (x : Fraction) : Nat :=
  let floor := x.num / x.den
  let twice := 2 * (x.num % x.den)
  if x.den < twice ∨ (twice = x.den ∧ floor % 2 = 1) then floor + 1 else floor

/-- The integer that the fraction is, if it is one. -/
def integer? (x : Fraction) : Option Nat :=
  if x.num % x.den = 0 then some (x.num / x.den) else none

/-- The float nearest to the fraction: a significand below `2 ^ 53` times a power of two, which is
at least the power of the smallest float. Above the largest float there is none. -/
def toFloat? (x : Fraction) : Option Fraction :=
  if x.num = 0 then some x
  else
    let guess : Int := Int.ofNat x.num.log2 - Int.ofNat x.den.log2 - 53
    let scaled := x.scale 2 (-guess)
    let power := max (if Nat.pow 2 53 * scaled.den ≤ scaled.num then guess + 1 else guess) (-1074)
    let significand := (x.scale 2 (-power)).nearest
    if 971 < power ∨ (power = 971 ∧ significand = Nat.pow 2 53) then none
    else some (scale ⟨significand, 1⟩ 2 power)

end Fraction

/-- Reads an exponent: digits after an optional sign. -/
def exponent : List Char → Int
  | '-' :: cs => -Int.ofNat (Nat.ofDigitChars 10 cs 0)
  | '+' :: cs => Nat.ofDigitChars 10 cs 0
  | cs => Nat.ofDigitChars 10 cs 0

/-- The float of unsigned digits: a significand with an optional fraction and an optional exponent
after the letter `e`. Infinities and undefined numbers have no digits. -/
def floatOfDigits? (cs : List Char) : Option Fraction :=
  let whole := cs.takeWhile Char.isDigit
  let rest := cs.dropWhile Char.isDigit
  let fraction := match rest with
    | '.' :: tail => tail.takeWhile Char.isDigit
    | _ => []
  let power := match rest.dropWhile (· != 'e') with
    | _ :: tail => exponent tail
    | [] => 0
  if whole = [] then none
  else
    let digits : Fraction := ⟨Nat.ofDigitChars 10 (whole ++ fraction) 0, 1⟩
    (digits.scale 10 (power - fraction.length)).toFloat?

/-- The integer that float digits denote, if they denote one. -/
def floatInteger? (digits : String) : Option Int :=
  match digits.toList with
  | '-' :: cs => ((floatOfDigits? cs).bind Fraction.integer?).map fun n => -Int.ofNat n
  | cs => ((floatOfDigits? cs).bind Fraction.integer?).map Int.ofNat

/-- The integer that a value denotes. -/
def Value.integer? : Value → Option Int
  | .int n => some n
  | .bool b => some (if b then 1 else 0)
  | .float digits => floatInteger? digits
  | _ => none

end EditorConfig
