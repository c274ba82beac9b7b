import TextGen.Text.Split

/-! Tables of code points.
A table is written as lines of text, in hexadecimal, and read once. Its entries are ascending, so a
look-up halves the part that is left. -/
namespace TextGen.Unicode

open TextGen.Text (splitOn)

def hexDigit? (c : Char) : Option Nat :=
  if '0' ≤ c ∧ c ≤ '9' then some (c.toNat - '0'.toNat)
  else if 'a' ≤ c ∧ c ≤ 'f' then some (c.toNat - 'a'.toNat + 10)
  else if 'A' ≤ c ∧ c ≤ 'F' then some (c.toNat - 'A'.toNat + 10)
  else none

/-- The value of the hexadecimal digits of a text; other characters do not count. -/
def ofHex (digits : List Char) : Nat :=
  (digits.filterMap hexDigit?).foldl (fun n d => 16 * n + d) 0

/-- The number of entries among those from `lo` up to `hi` that start at `n` or before it, counted
from the first entry of the table. -/
def startsUpTo {α : Type} (table : Array (Nat × α)) (n lo hi : Nat) : Nat :=
  if lo < hi then
    let mid := (lo + hi) / 2
    match table[mid]? with
    | none => lo
    | some (start, _) =>
      if start ≤ n then startsUpTo table n (mid + 1) hi else startsUpTo table n lo mid
  else lo
termination_by hi - lo

def entryAt? {α : Type} (table : Array (Nat × α)) (n : Nat) : Option (Nat × α) :=
  match startsUpTo table n 0 table.size with
  | 0 => none
  | k + 1 => table[k]?

/-- Closed ranges, each with its first and its last code point. They are ascending and do not
touch. -/
abbrev Ranges := Array (Nat × Nat)

def items (lines : List String) : List (List Char) :=
  lines.flatMap fun line => splitOn ' ' line.toList

namespace Ranges

def ofItems (items : List (List Char)) : Ranges :=
  let entry (item : List Char) : Nat × Nat :=
    match splitOn '-' item with
    | [first, last] => (ofHex first, ofHex last)
    | _ => (ofHex item, ofHex item)
  items.map entry |>.toArray

def ofLines (lines : List String) : Ranges := ofItems (items lines)

def contains (ranges : Ranges) (n : Nat) : Bool :=
  match entryAt? ranges n with
  | some (_, last) => n ≤ last
  | none => false

/-! ### Sets of code points -/

/-- A range followed by others that start at its start or later; those that overlap it or touch it
become a part of it. -/
def joinFrom (first last : Nat) : List (Nat × Nat) → List (Nat × Nat)
  | [] => [(first, last)]
  | (a, b) :: rest =>
    if a ≤ last + 1 then joinFrom first (max last b) rest
    else (first, last) :: joinFrom a b rest

def ofList (pairs : List (Nat × Nat)) : Ranges :=
  match pairs.mergeSort fun x y => x.1 ≤ y.1 with
  | [] => #[]
  | (a, b) :: rest => (joinFrom a b rest).toArray

def single (n : Nat) : Ranges := #[(n, n)]

def union (r s : Ranges) : Ranges := ofList (r.toList ++ s.toList)

/-- The code point of the character that comes next. No characters have code points from `0xd800` to
`0xdfff`. -/
def next (n : Nat) : Nat := if n = 0xd7ff then 0xe000 else n + 1

def previous (n : Nat) : Nat := if n = 0xe000 then 0xd7ff else n - 1

def lastCode : Nat := 0x10ffff

/-- The code points of the entries that pass a test. Each entry of the table goes on to the next. -/
def ofEntries {α : Type} (test : α → Bool) : List (Nat × α) → List (Nat × Nat)
  | [] => []
  | (first, x) :: rest =>
    let last := match rest with
      | (start, _) :: _ => start - 1
      | [] => lastCode
    (if test x then [(first, last)] else []) ++ ofEntries test rest

/-- What lies between ranges and after them, the last range before them ending at `upper`. A gap is
named by its two ends, in ascending order. -/
def gapsFrom (upper : Nat) : List (Nat × Nat) → List (Nat × Nat)
  | [] => if upper < lastCode then [(next upper, lastCode)] else []
  | (a, b) :: rest =>
    let (x, y) := (next upper, previous a)
    (min x y, max x y) :: gapsFrom b rest

def complement (r : Ranges) : Ranges :=
  match r.toList with
  | [] => #[(0, lastCode)]
  | (a, b) :: rest => ((if 0 < a then [(0, previous a)] else []) ++ gapsFrom b rest).toArray

def commonOf : List (Nat × Nat) → List (Nat × Nat) → List (Nat × Nat)
  | (a, b) :: r, (c, d) :: s =>
    let shared := if max a c ≤ min b d then [(max a c, min b d)] else []
    shared ++ (if b < d then commonOf r ((c, d) :: s) else commonOf ((a, b) :: r) s)
  | _, _ => []
termination_by r s => r.length + s.length

def inter (r s : Ranges) : Ranges := (commonOf r.toList s.toList).toArray

def restOf : List (Nat × Nat) → List (Nat × Nat) → List (Nat × Nat)
  | [], _ => []
  | r, [] => r
  | (a, b) :: r, (c, d) :: s =>
    if d < a then restOf ((a, b) :: r) s
    else if b < c then (a, b) :: restOf r ((c, d) :: s)
    else
      (if a < c then [(a, previous c)] else [])
        ++ (if d < b then restOf ((next d, b) :: r) s else restOf r ((c, d) :: s))
termination_by r s => r.length + s.length

def diff (r s : Ranges) : Ranges := (restOf r.toList s.toList).toArray

end Ranges

end TextGen.Unicode
