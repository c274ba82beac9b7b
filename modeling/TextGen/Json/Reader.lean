import TextGen.Json.Value
import TextGen.Number.Decimal
import TextGen.Number.Double
import TextGen.Text.Reading
import TextGen.Text.Search
import TextGen.Unicode.Ranges

/-! Reading JSON.
The reader is strict: no comments, no trailing commas, no blanks but space, tab and line ends, and
nothing after the value. Text may not hold control characters or half of a surrogate pair, numbers
must be within the range of doubles, and values may be nested to a limited depth. -/
namespace TextGen.Json

open TextGen.Text (Reading dropPrefix? length_dropWhile_le)

def depthLimit : Nat := 127

def isBlank (c : Char) : Bool := c = ' ' || c = '\t' || c = '\n' || c = '\r'

def unit? : List Char → Option (Nat × List Char)
  | a :: b :: c :: d :: rest => do
    let digits ← [a, b, c, d].mapM Unicode.hexDigit?
    some (digits.foldl (fun n x => 16 * n + x) 0, rest)
  | _ => none

/-- The character of an escape, whose backslash has been read. A character beyond the first 65536
is written as a high and a low surrogate. -/
def escape? : List Char → Option (Char × List Char)
  | '"' :: rest => some ('"', rest)
  | '\\' :: rest => some ('\\', rest)
  | '/' :: rest => some ('/', rest)
  | 'b' :: rest => some ('\x08', rest)
  | 'f' :: rest => some ('\x0c', rest)
  | 'n' :: rest => some ('\n', rest)
  | 'r' :: rest => some ('\r', rest)
  | 't' :: rest => some ('\t', rest)
  | 'u' :: rest => do
    let (high, rest) ← unit? rest
    if 0xDC00 ≤ high ∧ high ≤ 0xDFFF then none
    else if 0xD800 ≤ high ∧ high ≤ 0xDBFF then
      match rest with
      | '\\' :: 'u' :: rest =>
        let (low, rest) ← unit? rest
        if 0xDC00 ≤ low ∧ low ≤ 0xDFFF then
          some (Char.ofNat (0x10000 + (high - 0xD800) * 0x400 + (low - 0xDC00)), rest)
        else none
      | _ => none
    else some (Char.ofNat high, rest)
  | _ => none

theorem unit?_shorter {text rest : List Char} {n : Nat} (h : unit? text = some (n, rest)) :
    rest.length < text.length := by
  unfold unit? at h
  split at h
  · rename_i a b c d r
    cases hd : [a, b, c, d].mapM Unicode.hexDigit? with
    | none => rw [hd] at h; cases h
    | some ds =>
      rw [hd] at h
      simp only [Option.bind_eq_bind, Option.bind_some, Option.some.injEq, Prod.mk.injEq] at h
      simp only [← h.2, List.length_cons]
      omega
  · cases h

theorem escape?_shorter {text rest : List Char} {c : Char} (h : escape? text = some (c, rest)) :
    rest.length < text.length := by
  unfold escape? at h
  split at h
  case h_9 r =>
    cases hu : unit? r with
    | none => rw [hu] at h; cases h
    | some first =>
      obtain ⟨high, after⟩ := first
      have first_shorter := unit?_shorter hu
      rw [hu] at h
      simp only [Option.bind_eq_bind, Option.bind_some] at h
      split at h
      · cases h
      · split at h
        · split at h
          · rename_i low_text
            cases hl : unit? low_text with
            | none => rw [hl] at h; cases h
            | some second =>
              obtain ⟨low, last⟩ := second
              have second_shorter := unit?_shorter hl
              rw [hl] at h
              simp only [Option.bind_some] at h
              split at h
              · simp only [Option.some.injEq, Prod.mk.injEq] at h
                simp only [List.length_cons] at *
                rw [← h.2]
                omega
              · cases h
          · cases h
        · simp only [Option.some.injEq, Prod.mk.injEq] at h
          simp only [List.length_cons]
          rw [← h.2]
          omega
  case h_10 => cases h
  all_goals
    simp only [Option.some.injEq, Prod.mk.injEq] at h
    simp [← h.2]

def text? (input : List Char) : Option (Reading (List Char) input) :=
  match h : input with
  | [] => none
  | '"' :: rest => some ⟨[], rest, by simp⟩
  | '\\' :: rest =>
    match he : escape? rest with
    | none => none
    | some (c, after) =>
      have := escape?_shorter he
      (text? after).map fun r => (r.map (c :: ·)).within (by simp; omega)
  | c :: rest =>
    if c.toNat < 0x20 then none
    else (text? rest).map fun r => (r.map (c :: ·)).within (by simp)
termination_by input.length
decreasing_by
  all_goals subst h; simp; try omega

def scaledDown (x : Float) (power : Nat) : Float :=
  if power ≤ 308 then x / Number.nearest 1 power
  else if x == 0 then x
  else scaledDown (x / 1e308) (power - 308)
termination_by power

/-- The whole number that digits make up together with those before them, and the number of digits
from the first one on that does not fit a word of 64 bits. -/
def absorb (n : Nat) (digits : List Char) : Nat × Nat :=
  digits.foldl
    (fun (n, left) c =>
      let next := 10 * n + Number.digitValue c
      if left = 0 ∧ next < UInt64.size then (next, 0) else (n, left + 1))
    (n, 0)

/-- A magnitude as a double, none if it is beyond them: a whole number times a power of ten. Digits
before the point that do not fit the whole number multiply by ten, those after it do not count. -/
def magnitude? (whole places : List Char) (exponent : Int) : Option Float :=
  let (n, beyond) := absorb 0 whole
  let (m, ignored) := absorb n places
  let power := exponent + beyond - (places.length - ignored : Nat)
  let x := m.toFloat
  match power with
  | .negSucc e => some (scaledDown x (e + 1))
  | .ofNat e =>
    if m = 0 then some x
    else if 308 < e then none
    else
      let y := x * Number.nearest 1 e
      if Number.isFinite y then some y else none

def digits? (text : List Char) : Option (List Char × List Char) :=
  match text.takeWhile Char.isDigit with
  | [] => none
  | ds => some (ds, text.dropWhile Char.isDigit)

def places? : List Char → Option (List Char × List Char)
  | '.' :: rest => digits? rest
  | rest => some ([], rest)

def exponent? : List Char → Option (Int × List Char)
  | c :: rest =>
    if c = 'e' ∨ c = 'E' then
      let (negative, rest) := match rest with
        | '-' :: r => (true, r)
        | '+' :: r => (false, r)
        | r => (false, r)
      (digits? rest).map fun (ds, after) =>
        let n : Int := Number.ofDigits ds
        (if negative then -n else n, after)
    else some (0, c :: rest)
  | [] => some (0, [])

/-- A number and the text after it: an optional minus, digits without a needless zero in front,
places and an exponent. -/
def double? (text : List Char) : Option (Float × List Char) := do
  let (negative, unsigned) := match text with
    | '-' :: rest => (true, rest)
    | rest => (false, rest)
  let (whole, rest) ← digits? unsigned
  let (places, rest) ← places? rest
  let (exponent, rest) ← exponent? rest
  if whole.head? = some '0' ∧ 1 < whole.length then none
  else
    let x ← magnitude? whole places exponent
    some (if negative then -x else x, rest)

def number? (c : Char) (rest : List Char) : Option (Reading Value (c :: rest)) :=
  match double? (c :: rest) with
  | none => none
  | some (_, after) =>
    let length := (c :: rest).length - after.length
    Reading.of? (c :: rest) (.number (String.ofList ((c :: rest).take length)), after)

/-- One of the three words, without its first letter. -/
def word? (value : Value) (letters : String) (c : Char) (rest : List Char) :
    Option (Reading Value (c :: rest)) :=
  (dropPrefix? letters.toList rest).bind fun after => Reading.of? (c :: rest) (value, after)

mutual

/-- A value and the text after it. `depth` arrays and objects may still be opened. -/
def value? (depth : Nat) (input : List Char) : Option (Reading Value input) :=
  match input with
  | [] => none
  | c :: rest =>
    if isBlank c then (value? depth rest).map (·.within (by simp))
    else match c, depth with
      | '"', _ =>
        (text? rest).map fun r => (r.map (.text <| String.ofList ·)).within (by simp)
      | 't', _ => word? (.boolean true) "rue" 't' rest
      | 'f', _ => word? (.boolean false) "alse" 'f' rest
      | 'n', _ => word? .null "ull" 'n' rest
      | '[', depth + 1 =>
        match h : rest.dropWhile isBlank with
        | ']' :: after =>
          have := length_dropWhile_le isBlank rest
          some ⟨.array [], after, by simp only [h, List.length_cons] at *; omega⟩
        | _ => (items? depth rest).map fun r => (r.map .array).within (by simp)
      | '\x7b', depth + 1 =>
        match h : rest.dropWhile isBlank with
        | '\x7d' :: after =>
          have := length_dropWhile_le isBlank rest
          some ⟨.object [], after, by simp only [h, List.length_cons] at *; omega⟩
        | _ =>
          (members? depth rest).map fun r => (r.map .object).within (by simp)
      | '[', 0 => none
      | '\x7b', 0 => none
      | c, _ => number? c rest
termination_by (input.length, 0)

def items? (depth : Nat) (input : List Char) : Option (Reading (List Value) input) :=
  match value? depth input with
  | none => none
  | some ⟨v, rest, shorter⟩ =>
    have := length_dropWhile_le isBlank rest
    match h : rest.dropWhile isBlank with
    | ']' :: after => some ⟨[v], after, by simp only [h, List.length_cons] at *; omega⟩
    | ',' :: after =>
      have : after.length < input.length := by simp only [h, List.length_cons] at *; omega
      (items? depth after).map fun r => (r.map (v :: ·)).within (by omega)
    | _ => none
termination_by (input.length, 1)

def members? (depth : Nat) (input : List Char) :
    Option (Reading (List (String × Value)) input) :=
  have := length_dropWhile_le isBlank input
  match h : input.dropWhile isBlank with
  | '"' :: start =>
    match text? start with
    | none => none
    | some ⟨key, rest, shorter⟩ =>
      have := length_dropWhile_le isBlank rest
      match hc : rest.dropWhile isBlank with
      | ':' :: rest =>
        have closer : rest.length < input.length := by
          simp only [h, hc, List.length_cons] at *; omega
        match value? depth rest with
        | none => none
        | some ⟨v, rest, shorter⟩ =>
          have := length_dropWhile_le isBlank rest
          let member := (String.ofList key, v)
          match hv : rest.dropWhile isBlank with
          | '\x7d' :: after =>
            some ⟨[member], after, by simp only [hv, List.length_cons] at *; omega⟩
          | ',' :: after =>
            have : after.length < input.length := by
              simp only [hv, List.length_cons] at *; omega
            (members? depth after).map fun r => (r.map (member :: ·)).within (by omega)
          | _ => none
      | _ => none
  | _ => none
termination_by (input.length, 1)

end

def ofText? (text : String) : Option Value :=
  match value? depthLimit text.toList with
  | some r => if r.rest.all isBlank then some r.value else none
  | none => none

end TextGen.Json
