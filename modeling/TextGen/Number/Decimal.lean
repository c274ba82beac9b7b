/-! Reading decimal numbers as doubles.
The text is an optional sign and either a word for infinity or for what is not a number, or digits
with an optional point and an optional exponent; there is at least one digit beside the exponent.
The result is the nearest double. -/
namespace TextGen.Number

def digitValue (c : Char) : Nat := c.toNat - '0'.toNat

def ofDigits (digits : List Char) : Nat :=
  digits.foldl (fun n c => 10 * n + digitValue c) 0

/-- The double nearest to `digits * 10 ^ power`. Powers beyond the range of doubles are settled
without computing them. -/
def nearest (digits : Nat) (power : Int) : Float :=
  let size := (Nat.toDigits 10 digits).length
  if digits = 0 then 0.0
  else if power + size > 400 then 1.0 / 0.0
  else if power + size < -400 then 0.0
  else match power with
    | .ofNat e => Float.ofScientific digits false e
    | .negSucc e => Float.ofScientific digits true (e + 1)

/-- The exponent part: nothing, or `e`, an optional sign and digits. -/
def exponent? : List Char → Option Int
  | [] => some 0
  | c :: rest =>
    if c ≠ 'e' ∧ c ≠ 'E' then none
    else
      let (negative, digits) := match rest with
        | '-' :: ds => (true, ds)
        | '+' :: ds => (false, ds)
        | ds => (false, ds)
      if digits ≠ [] ∧ digits.all Char.isDigit then
        let n : Int := ofDigits digits
        some (if negative then -n else n)
      else none

def magnitude? (text : List Char) : Option Float :=
  let whole := text.takeWhile Char.isDigit
  let rest := text.dropWhile Char.isDigit
  let (places, rest) := match rest with
    | '.' :: r => (r.takeWhile Char.isDigit, r.dropWhile Char.isDigit)
    | r => ([], r)
  if whole = [] ∧ places = [] then none
  else (exponent? rest).map fun e => nearest (ofDigits (whole ++ places)) (e - places.length)

def word? (text : List Char) : Option Float :=
  let lower := String.ofList (text.map Char.toLower)
  if lower = "inf" ∨ lower = "infinity" then some (1.0 / 0.0)
  else if lower = "nan" then some (0.0 / 0.0)
  else none

def ofChars? (text : List Char) : Option Float :=
  let (negative, rest) := match text with
    | '-' :: r => (true, r)
    | '+' :: r => (false, r)
    | r => (false, r)
  ((word? rest).or (magnitude? rest)).map fun x => if negative then -x else x

def ofText? (text : String) : Option Float := ofChars? text.toList

end TextGen.Number
