/-! Doubles taken apart.
A finite double is `m * 2 ^ e`, with a sign of its own so that both zeros are told apart. The
functions here are exact: they work on the fields of the bit pattern, never on rounded results. -/
namespace TextGen.Number

/-- The sign, the significand and the exponent of a finite double. -/
structure Parts where
  negative : Bool
  significand : Nat
  exponent : Int
deriving DecidableEq, Repr

inductive Shape where
  | finite (parts : Parts)
  | infinite (negative : Bool)
  | notANumber
deriving DecidableEq, Repr

/-- What the leading one of a significand counts: there are 52 digits after it. -/
def leadingOne : Nat := 0x10000000000000

/-- Subnormal numbers have no leading one and the exponent of the smallest normal ones. -/
def shape (x : Float) : Shape :=
  let bits := x.toBits.toNat
  let negative := bits.testBit 63
  let field : Nat := bits / leadingOne % 2048
  let fraction : Nat := bits % leadingOne
  if field = 2047 then
    if fraction = 0 then .infinite negative else .notANumber
  else if field = 0 then .finite ⟨negative, fraction, -1074⟩
  else .finite ⟨negative, leadingOne + fraction, Int.ofNat field - 1075⟩

namespace Parts

def quotient (p : Parts) : Nat × Nat :=
  match p.exponent with
  | .ofNat e => (p.significand * Nat.pow 2 e, 1)
  | .negSucc e => (p.significand, Nat.pow 2 (e + 1))

end Parts

/-- What becomes of a quotient that lies halfway between two whole numbers. -/
inductive Tie where
  | toEven
  | away
deriving DecidableEq, Repr

/-- The whole number nearest to `num / den`. -/
def roundDiv (tie : Tie) (num den : Nat) : Nat :=
  let q := num / den
  let r := num % den
  let up := den < 2 * r ∨ (den = 2 * r ∧ (tie = .away ∨ q % 2 = 1))
  if up then q + 1 else q

/-- The nearest whole number, halves upward. Negative numbers and what is not a number give 0, and
nothing gives more than the bound. -/
def roundToNat (bound : Nat) (x : Float) : Nat :=
  match shape x with
  | .finite p =>
    if p.negative then 0 else min bound (roundDiv .away p.quotient.1 p.quotient.2)
  | .infinite negative => if negative then 0 else bound
  | .notANumber => 0

def isFinite (x : Float) : Bool :=
  match shape x with
  | .finite _ => true
  | _ => false

def padded (length n : Nat) : String :=
  let digits := (Nat.toDigits 10 n)
  String.ofList (List.replicate (length - digits.length) '0' ++ digits)

/-- The exact value with a fixed number of decimal places; a tie goes to the even digit. -/
def fixed (places : Nat) (x : Float) : String :=
  match shape x with
  | .notANumber => "NaN"
  | .infinite negative => if negative then "-inf" else "inf"
  | .finite p =>
    let scaled := roundDiv .toEven (p.quotient.1 * Nat.pow 10 places) p.quotient.2
    let whole := toString (scaled / Nat.pow 10 places)
    let tail := if places = 0 then "" else "." ++ padded places (scaled % Nat.pow 10 places)
    (if p.negative then "-" else "") ++ whole ++ tail

end TextGen.Number
