import TextGen.Number.Decimal
import TextGen.Text.Reading
import TextGen.Text.Search
import TextGen.Unicode.Ranges

/-! The notation that settings are written in.
A value is a number, a text, a word, a list, a map, or a group in parentheses whose members have
names or not; a group may have a name in front. Members are separated by commas, and a comma after
the last one is allowed. Comments go to the end of the line or stand between marks that nest.

There is a reader for every form of value that a setting can have, and one that passes over a value
of any form. -/
namespace TextGen.Config

abbrev Reader (α : Type) := List Char → Option (α × List Char)

/-! ### Blanks and comments -/

def isBlank (c : Char) : Bool := c = ' ' || c = '\t' || c = '\n' || c = '\r'

def afterComment? : (level : Nat) → List Char → Option (List Char)
  | level, '/' :: '*' :: rest => afterComment? (level + 1) rest
  | 0, '*' :: '/' :: rest => some rest
  | level + 1, '*' :: '/' :: rest => afterComment? level rest
  | level, _ :: rest => afterComment? level rest
  | _, [] => none

/-- The text after blanks and comments; none if a comment is not closed. -/
def skip? (text : List Char) : Option (List Char) :=
  match text with
  | [] => some []
  | '/' :: '/' :: line =>
    have := Text.length_dropWhile_le (· ≠ '\n') line
    skip? (line.dropWhile (· ≠ '\n'))
  | '/' :: '*' :: inside =>
    match afterComment? 0 inside with
    | none => none
    | some after => if _closer : after.length < inside.length then skip? after else none
  | '/' :: _ => none
  | c :: rest => if isBlank c then skip? rest else some (c :: rest)
termination_by text.length
decreasing_by
  all_goals simp only [List.length_cons]; omega

def sign? (sign : Char) (text : List Char) : Option (List Char) :=
  match skip? text with
  | some (c :: rest) => if c = sign then skip? rest else none
  | _ => none

/-! ### Words -/

def isNameStart (c : Char) : Bool := c.isAlpha || c = '_'

def isNameChar (c : Char) : Bool := c.isAlphanum || c = '_'

/-- Characters that a name has only if it is marked as raw. -/
def isRawChar (c : Char) : Bool := isNameChar c || c = '.' || c = '+' || c = '-'

/-- A name; the letter that opens a raw text is none. -/
def name? (text : List Char) : Option (String × List Char) :=
  match text with
  | 'r' :: '"' :: _ => none
  | 'r' :: '#' :: rest =>
    match rest.takeWhile isRawChar with
    | [] => none
    | name => some (String.ofList name, rest.dropWhile isRawChar)
  | c :: _ =>
    let rest := text.dropWhile isNameChar
    if isNameStart c && !rest.head?.any isRawChar then
      some (String.ofList (text.takeWhile isNameChar), rest)
    else none
  | [] => none

/-- The text after the given word, which ends where no further character belongs to a name. -/
def word? (word : String) (text : List Char) : Option (List Char) :=
  (Text.dropPrefix? word.toList text).filter fun rest => !rest.head?.any isNameChar

/-! ### Numbers and texts -/

/-- Digits of a base with underscores among them, but not in front. -/
def digits? (base : Nat) (text : List Char) : Option (Nat × List Char) :=
  let isDigit (c : Char) : Bool := (Unicode.hexDigit? c).isSome || c = '_'
  match text.takeWhile isDigit with
  | [] => none
  | '_' :: _ => none
  | run =>
    let values := run.filterMap Unicode.hexDigit?
    if values.all (· < base) then
      some (values.foldl (fun n d => base * n + d) 0, text.dropWhile isDigit)
    else none

def upTo? (most : Nat) (text : List Char) : Option (Nat × List Char) :=
  let read := match text with
    | '0' :: 'x' :: rest => digits? 16 rest
    | '0' :: 'b' :: rest => digits? 2 rest
    | '0' :: 'o' :: rest => digits? 8 rest
    | _ => digits? 10 text
  read.filter fun (n, _) => n ≤ most

def natural? : Reader Nat := upTo? (UInt64.size - 1)

def isDecimalChar (c : Char) : Bool := c.isDigit || "eE.+-_".toList.contains c

/-- Passes over a number with or without a point and an exponent. With a sign the words for infinity
and for what is not a number are numbers too. -/
def skipDecimal? (text : List Char) : Option (List Char) :=
  match ["+inf", "-inf", "+NaN", "-NaN"].findSome? (word? · text) with
  | some rest => some rest
  | none =>
    (Number.ofChars? (text.takeWhile isDecimalChar)).map fun _ => text.dropWhile isDecimalChar

/-- Whether a number has a part that no whole number has. -/
def isDecimal (text : List Char) : Bool :=
  let digits := match text with
    | '+' :: rest => rest
    | '-' :: rest => rest
    | _ => text
  let isIntegerChar (c : Char) : Bool := (Unicode.hexDigit? c).isSome || c = '_'
  (digits.takeWhile isIntegerChar).length < (digits.takeWhile isDecimalChar).length

/-- Passes over a number. Whole numbers have 64 bits; one that is too large may still be read as a
decimal number. -/
def skipNumber? (text : List Char) : Option (List Char) :=
  let half := Int64.maxValue.toNatClampNeg
  let whole := match text with
    | '+' :: rest => upTo? half rest
    | '-' :: rest => upTo? (half + 1) rest
    | _ => natural? text
  match (if isDecimal text then none else whole) with
  | some (_, rest) => some rest
  | none => skipDecimal? text

def hexRun (k : Nat) (text : List Char) : List Char × List Char :=
  let run := (text.take k).takeWhile fun c => (Unicode.hexDigit? c).isSome
  (run, text.drop run.length)

def escape? : List Char → Option (Char × List Char)
  | '\'' :: rest => some ('\'', rest)
  | '"' :: rest => some ('"', rest)
  | '\\' :: rest => some ('\\', rest)
  | 'n' :: rest => some ('\n', rest)
  | 'r' :: rest => some ('\r', rest)
  | 't' :: rest => some ('\t', rest)
  | '0' :: rest => some ('\x00', rest)
  | 'x' :: rest =>
    match hexRun 2 rest with
    | ([a, b], after) => some (Char.ofNat (Unicode.ofHex [a, b]), after)
    | _ => none
  | 'u' :: '\x7b' :: rest =>
    match hexRun 6 rest with
    | (d :: ds, '\x7d' :: after) =>
      let n := Unicode.ofHex (d :: ds)
      if n.isValidChar then some (Char.ofNat n, after) else none
    | _ => none
  | _ => none

def text? (text : List Char) : Option (List Char × List Char) :=
  match text with
  | [] => none
  | '"' :: rest => some ([], rest)
  | '\\' :: rest =>
    match escape? rest with
    | none => none
    | some (c, after) =>
      if _closer : after.length < rest.length then
        (text? after).map fun (cs, last) => (c :: cs, last)
      else none
  | c :: rest => (text? rest).map fun (cs, last) => (c :: cs, last)
termination_by text.length
decreasing_by
  all_goals simp only [List.length_cons]; omega

/-- A text without escapes between quotes that have number signs outside. The leading letter has
been read. -/
def rawText? (text : List Char) : Option (List Char × List Char) :=
  let hashes := text.takeWhile (· = '#')
  match text.dropWhile (· = '#') with
  | '"' :: rest => Text.cut? ('"' :: hashes) rest
  | _ => none

def character? : List Char → Option (Char × List Char)
  | '\\' :: rest =>
    match escape? rest with
    | some (c, '\'' :: after) => some (c, after)
    | _ => none
  | '\'' :: _ => none
  | c :: '\'' :: after => some (c, after)
  | _ => none

def string? : Reader String
  | '"' :: rest => (text? rest).map fun (cs, after) => (String.ofList cs, after)
  | 'r' :: rest => (rawText? rest).map fun (cs, after) => (String.ofList cs, after)
  | _ => none

/-! ### Values that hold others -/

/-- Members between commas up to the closing sign, which is read too. Each of them changes what has
been gathered so far. -/
def members? {σ : Type} (close : Char) (member : σ → Reader σ) (gathered : σ) (text : List Char) :
    Option (σ × List Char) :=
  match skip? text with
  | none => none
  | some [] => none
  | some (c :: last) =>
    if c = close then some (gathered, last)
    else
      match member gathered (c :: last) with
      | none => none
      | some (more, after) =>
        match skip? after with
        | some (',' :: next) =>
          if _closer : next.length < text.length then members? close member more next else none
        | some (d :: last) => if d = close then some (more, last) else none
        | _ => none
termination_by text.length

/-- A value that may be absent. It stands in parentheses behind a word; if it may also stand bare,
neither of them is needed. -/
def optional? {α : Type} (bare : Bool) (value : Reader α) : Reader (Option α) := fun text =>
  let plain (start : List Char) : Option (Option α × List Char) :=
    if bare then (value start).map fun (v, after) => (some v, after) else none
  match Text.dropPrefix? "None".toList text, Text.dropPrefix? "Some".toList text with
  | some after, _ => some (none, after)
  | none, none => plain text
  | none, some after =>
    match skip? after with
    | some ('(' :: inner) => do
      let (v, rest) ← value (← skip? inner)
      match (sign? ',' rest).or (skip? rest) with
      | some (')' :: last) => some (some v, last)
      | _ => none
    | some start => plain start
    | none => none

def list? {α : Type} (item : Reader α) : Reader (List α)
  | '[' :: rest =>
    members? ']' (fun items text => (item text).map fun (x, after) => (items ++ [x], after)) [] rest
  | _ => none

/-- Whether the members of a group have names, which the first one shows. The names of the others
may then be values of any form. -/
def hasNames (group : List Char) : Bool :=
  match ((skip? group).bind name?).bind fun (_, after) => skip? after with
  | some (':' :: _) => true
  | _ => false

def pair? (item : Reader Unit) : Reader Unit := fun text => do
  let (_, after) ← item text
  item (← sign? ':' after)

/-- Passes over a value of any form. An opening sign may have to be refused because too many others
are open; so may the value behind it. `present` passes over a value that is marked as present,
`member` over one that has others beside it. -/
def skipForm? (bare mayOpen : Bool) (present member : Reader Unit) : Reader Unit := fun text =>
  let inside (close : Char) (item : Reader Unit) (rest : List Char) : Option (Unit × List Char) :=
    if mayOpen then members? close (fun _ => item) () rest else none
  let group (rest : List Char) : Option (Unit × List Char) :=
    inside ')' (if hasNames rest then pair? member else member) rest
  let done (rest : Option (List Char)) : Option (Unit × List Char) := rest.map ((), ·)
  match ["true", "false", "inf", "NaN"].findSome? (word? · text) with
  | some rest => some ((), rest)
  | none =>
    if (word? "Some" text).isSome ∨ (word? "None" text).isSome then
      (optional? bare present text).map fun (_, after) => ((), after)
    else match name? text with
      | some (_, after) =>
        match skip? after with
        | some ('(' :: rest) => group rest
        | _ => some ((), after)
      | none =>
        match text with
        | '(' :: ')' :: rest => some ((), rest)
        | '(' :: rest => group rest
        | '[' :: rest => inside ']' member rest
        | '\x7b' :: rest => inside '\x7d' (pair? member) rest
        | '\'' :: rest => done ((character? rest).map (·.2))
        | c :: _ =>
          if c = '"' ∨ c = 'r' then done ((string? text).map (·.2))
          else if c = '.' then done (skipDecimal? text)
          else if c.isDigit ∨ c = '+' ∨ c = '-' then done (skipNumber? text)
          else none
        | [] => none

/-- Passes over a value of any form in which others are nested to the given depth. Members are two
levels deeper than the value that they belong to, one for the signs around them. -/
def skipValue? (bare : Bool) : (depth : Nat) → Reader Unit
  | 0 => skipForm? bare false (fun _ => none) (fun _ => none)
  | 1 => skipForm? bare true (skipValue? bare 0) (fun _ => none)
  | d + 2 => skipForm? bare true (skipValue? bare (d + 1)) (skipValue? bare d)

/-- A field of a record, with the reader that changes the record. -/
abbrev Fields (α : Type) := List (String × (α → Reader α))

/-- A record, which may have its own name in front. Fields that are missing keep their values, those
that are not known are passed over, and none may be given twice. -/
def record? {α : Type} (name : String) (fields : Fields α) (unknown : Reader Unit) (start : α) :
    Reader α := fun text => do
  let body ←
    if text.head?.any isNameChar then
      (name? text).bind fun (given, after) => if given = name then skip? after else none
    else some text
  let field (gathered : α × List String) (text : List Char) :
      Option ((α × List String) × List Char) := do
    let (key, after) ← name? text
    let (a, seen) := gathered
    let start ← sign? ':' after
    match fields.lookup key with
    | none => (unknown start).map fun (_, after) => ((a, seen), after)
    | some read =>
      if seen.contains key then none
      else (read a start).map fun (b, after) => ((b, key :: seen), after)
  match body with
  | '(' :: rest => (members? ')' field (start, []) rest).map fun ((a, _), after) => (a, after)
  | _ => none

end TextGen.Config
