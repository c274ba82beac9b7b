import TextGen.Unicode.Ranges

/-! Characters as bytes.
A character takes one to four bytes: the first says how many follow, and each of these holds six
bits. A range of characters is cut into ranges for each of the bytes. -/
namespace TextGen.Unicode.Utf8

def encode (n : Nat) : List Nat :=
  if n < 0x80 then [n]
  else if n < 0x800 then [0xc0 + n / 64, 0x80 + n % 64]
  else if n < 0x10000 then [0xe0 + n / 4096, 0x80 + n / 64 % 64, 0x80 + n % 64]
  else [0xf0 + n / 262144, 0x80 + n / 4096 % 64, 0x80 + n / 64 % 64, 0x80 + n % 64]

/-- The last code point before a cut that is needed since not all values of the lowest bytes occur,
of `block` values each. -/
def cutOf? (lo hi block : Nat) : Option Nat :=
  if lo / block = hi / block then none
  else if lo % block ≠ 0 then some (lo / block * block + block - 1)
  else if hi % block ≠ block - 1 then some (hi / block * block - 1)
  else none

/-- The last code point before the first cut of a range. Its parts have the same number of bytes,
and if a byte differs between the first and the last character of a part, then those after it take
all their values. -/
def cut? (lo hi : Nat) : Option Nat :=
  match [0x7f, 0x7ff, 0xffff].find? fun last => lo ≤ last && last < hi with
  | some last => some last
  | none => if hi < 0x80 then none else [64, 4096, 262144].findSome? (cutOf? lo hi)

/-- The ranges of bytes, one for each place, whose combinations are the characters of a range.
No characters have code points from `0xd800` to `0xdfff`. -/
def sequences (lo hi : Nat) : List (List (Nat × Nat)) :=
  if hi < lo then []
  else if lo < 0xe000 ∧ 0xd7ff < hi then sequences lo 0xd7ff ++ sequences 0xe000 hi
  else match cut? lo hi with
    | none => [(encode lo).zip (encode hi)]
    | some last =>
      if lo ≤ last ∧ last < hi then sequences lo last ++ sequences (last + 1) hi else []
termination_by hi + 1 - lo

end TextGen.Unicode.Utf8
