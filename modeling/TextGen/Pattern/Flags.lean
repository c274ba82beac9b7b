import TextGen.Pattern.NamedSet

/-! The modes of patterns.
Flags set them; they hold up to the end of the group that they stand in. -/
namespace TextGen.Pattern

open TextGen.Unicode (Ranges)

/-- `extended` lets blanks and comments stand between the parts of a pattern. -/
structure Flags where
  ignoreCase : Bool := false
  multiLine : Bool := false
  dotAll : Bool := false
  crlf : Bool := false
  extended : Bool := false
  unicode : Bool := true
deriving DecidableEq, Repr

/-! ### Blanks and comments -/

def skipFrom : (comment : Bool) → List Char → List Char
  | _, [] => []
  | true, c :: rest => skipFrom (c ≠ '\n') rest
  | false, c :: rest =>
    if Text.isBlank c then skipFrom false rest
    else if c = '#' then skipFrom true rest
    else c :: rest

theorem skipFrom_length_le (comment : Bool) (text : List Char) :
    (skipFrom comment text).length ≤ text.length := by
  induction text generalizing comment with
  | nil => cases comment <;> simp [skipFrom]
  | cons c rest ih =>
    cases comment
    · simp only [skipFrom]
      split
      · exact Nat.le_succ_of_le (ih _)
      · split
        · exact Nat.le_succ_of_le (ih _)
        · exact Nat.le_refl _
    · exact Nat.le_succ_of_le (ih _)

namespace Flags

def skip (f : Flags) (text : List Char) : List Char :=
  if f.extended then skipFrom false text else text

theorem skip_length_le (f : Flags) (text : List Char) :
    (f.skip text).length ≤ text.length := by
  unfold skip
  split
  · exact skipFrom_length_le _ _
  · exact Nat.le_refl _

/-- The next character behind blanks. Behind a sign of comment the comment itself counts. -/
def peek (f : Flags) (text : List Char) : Option Char :=
  if f.extended then
    let start := match text.dropWhile Text.isBlank with
      | '#' :: rest => rest.dropWhile Text.isBlank
      | rest => rest
    start.head?.or text.head?
  else text.head?

/-- The characters that pass a test, up to the first that does not. In the extended mode there may
be blanks and comments behind each. -/
def takeWhile (f : Flags) (test : Char → Bool) : List Char → List Char × List Char
  | [] => ([], [])
  | c :: rest =>
    if test c then
      let (taken, after) := f.takeWhile test (f.skip rest)
      (c :: taken, after)
    else ([], c :: rest)
termination_by text => text.length
decreasing_by exact Nat.lt_succ_of_le (f.skip_length_le rest)

def upToBrace? (f : Flags) (text : List Char) : Option (List Char × List Char) :=
  match h : f.skip text with
  | [] => none
  | '\x7d' :: after => some ([], after)
  | c :: rest =>
    have : (c :: rest).length ≤ text.length := h ▸ f.skip_length_le text
    have : rest.length < text.length := this
    (f.upToBrace? rest).map fun (inner, after) => (c :: inner, after)
termination_by text.length

/-! ### What characters and sets stand for -/

/-- Adds the characters that differ from one of the set only in case, if case does not count. -/
def fold (f : Flags) (set : Ranges) : Ranges :=
  if !f.ignoreCase then set
  else if f.unicode then set.foldCase
  else foldAscii set

/-- A single character, or the set of its case variants if case does not count. -/
def literal (f : Flags) (c : Char) : Pattern :=
  if !f.ignoreCase then .literal [c]
  else if f.unicode then
    ofSet (.ofList ((Unicode.caseVariants c).map fun d => (d.toNat, d.toNat)))
  else ofSet (foldAscii (.single c.toNat))

/-- A set, or what is not in it. Without Unicode sets hold ASCII characters only, and a complement
never does. -/
def complementIf? (f : Flags) (negated : Bool) (set : Ranges) : Option Ranges :=
  if !negated then some set else if f.unicode then some set.complement else none

/-- The classes of one letter; a capital letter stands for what is not in the class. -/
def letterClass? (f : Flags) (letter : Char) : Option Ranges :=
  f.complementIf? letter.isUpper <| match letter.toLower with
    | 'd' => if f.unicode then digitChars else asciiDigits
    | 's' => if f.unicode then spaceChars else asciiSpaces
    | _ => if f.unicode then wordChars else asciiWords

/-- The dot. It stands for a character and not for a byte, so it needs Unicode. -/
def dot? (f : Flags) : Option Pattern :=
  if !f.unicode then none
  else if f.dotAll then some (one allChars)
  else if f.crlf then some (one (Ranges.complement #[(10, 10), (13, 13)]))
  else some (one (Ranges.complement #[(10, 10)]))

/-! ### Letters of flags -/

/-- The letters of flags, each at most once, and where the hyphen stands that unsets those behind
it. -/
def isLetters (letters : List Char) : Bool :=
  letters.all (fun c => "imsUuRx-".toList.contains c) && letters.getLast? ≠ some '-'
    && letters.eraseDups.length = letters.length

def set (f : Flags) (value : Bool) (letter : Char) : Flags :=
  match letter with
  | 'i' => { f with ignoreCase := value }
  | 'm' => { f with multiLine := value }
  | 's' => { f with dotAll := value }
  | 'R' => { f with crlf := value }
  | 'x' => { f with extended := value }
  | 'u' => { f with unicode := value }
  | _ => f

def setAll (f : Flags) (letters : List Char) : Flags :=
  let on := letters.takeWhile (· ≠ '-')
  let off := letters.dropWhile (· ≠ '-')
  off.foldl (·.set false ·) (on.foldl (·.set true ·) f)

end Flags

end TextGen.Pattern
