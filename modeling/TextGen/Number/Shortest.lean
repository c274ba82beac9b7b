import TextGen.Number.Double

/-! The shortest decimal text of a double.
Among the decimal numbers that read back as the same double, those with the fewest digits are
taken, and of these the nearest. The text is always positional, and a whole number has no point. -/
namespace TextGen.Number

/-- Exact magnitudes are compared on a common scale: `low`, `value` and `high` are numerators over
one denominator, and a decimal reads back if it lies between `low` and `high`. -/
structure Interval where
  low : Nat
  value : Nat
  high : Nat
  denominator : Nat
  closed : Bool

/-- The numbers that round to a double: half a step to either side. The step below a power of two
is half as long, and the ends belong to it if the significand is even. -/
def Parts.interval (p : Parts) : Interval :=
  let short := p.significand = leadingOne ∧ p.exponent ≠ -1074
  let (num, den) := p.quotient
  let unit := match p.exponent with
    | .ofNat e => Nat.pow 2 e
    | .negSucc _ => 1
  { low := 4 * num - (if short then unit else 2 * unit)
    value := 4 * num
    high := 4 * num + 2 * unit
    denominator := 4 * den
    closed := p.significand % 2 = 0 }

def Interval.covers (iv : Interval) (digits : Nat) (power : Int) : Bool :=
  let (n, lo, hi) := match power with
    | .ofNat e => (digits * Nat.pow 10 e * iv.denominator, iv.low, iv.high)
    | .negSucc e =>
      let scale := Nat.pow 10 (e + 1)
      (digits * iv.denominator, iv.low * scale, iv.high * scale)
  if iv.closed then lo ≤ n && n ≤ hi else lo < n && n < hi

def Interval.onGrid? (iv : Interval) (power : Int) : Option Nat :=
  let (num, den) := match power with
    | .ofNat e => (iv.value, iv.denominator * Nat.pow 10 e)
    | .negSucc e => (iv.value * Nat.pow 10 (e + 1), iv.denominator)
  let nearest := roundDiv .toEven num den
  let other := if nearest * den ≤ num then nearest + 1 else nearest - 1
  if iv.covers nearest power then some nearest
  else if iv.covers other power then some other
  else none

/-- The first hit on ever finer grids, with the power of its last digit. -/
def Interval.coarsest (iv : Interval) : Nat → Int → Nat × Int
  | 0, power => ((iv.onGrid? power).getD 0, power)
  | finer + 1, power =>
    match iv.onGrid? power with
    | some digits => if digits = 0 then iv.coarsest finer (power - 1) else (digits, power)
    | none => iv.coarsest finer (power - 1)

/-- A number `digits * 10 ^ power` written out, without an exponent. -/
def positional (digits : Nat) (power : Int) : String :=
  match power with
  | .ofNat e => toString (digits * Nat.pow 10 e)
  | .negSucc e =>
    let places := e + 1
    toString (digits / Nat.pow 10 places) ++ "." ++ padded places (digits % Nat.pow 10 places)

/-- Doubles lie below `10 ^ 309` and are multiples of `10 ^ -1074` in decimal places, so the grids
run from the first to the second. -/
def shortest (x : Float) : String :=
  match shape x with
  | .notANumber => "NaN"
  | .infinite negative => if negative then "-inf" else "inf"
  | .finite p =>
    let sign := if p.negative then "-" else ""
    if p.significand = 0 then sign ++ "0"
    else
      let (digits, power) := p.interval.coarsest 1400 309
      sign ++ positional digits power

end TextGen.Number
