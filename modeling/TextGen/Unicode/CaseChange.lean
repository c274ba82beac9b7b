import TextGen.Unicode.Case

/-! Characters that a change of case alters.
What alters may become several characters, so there are more of these than of characters that the
runs move. -/
namespace TextGen.Unicode.Property

def ofCodes (codes : List Nat) : Property where
  further := .ofList (codes.map fun n => (n, n))

def changesWhenLowercased : Property := .ofCodes (0x130 :: lowerRuns.sources)

def changesWhenUppercased : Property := .ofCodes (longUpper.map (·.1) ++ upperRuns.sources)

def changesWhenTitlecased : Property where
  further := changesWhenUppercased.further.union (.ofLines ["1c4 1c7 1ca 1f1"])
  without := (Category.ranges [.titleLetter]).union (.ofLines ["10d0-10fa 10fd-10ff"])

def changesWhenCasemapped : Property where
  further := changesWhenLowercased.further.union changesWhenTitlecased.ranges
    |>.union changesWhenUppercased.further

/-- Folding makes small letters of capitals, and takes small letters apart that are one character
for several. -/
def changesWhenCasefolded : Property where
  further := changesWhenLowercased.further.diff (.ofLines ["13a0-13f5"])
    |>.union (.ofLines
      ["b5 df 149 17f 345 3c2 3d0-3d1 3d5-3d6 3f0-3f1 3f5 587 13f8-13fd 1c80-1c88 1e9a-1e9b",
       "1f80-1f87 1f90-1f97 1fa0-1fa7 1fb2-1fb4 1fb7 1fc2-1fc4 1fc7 1ff2-1ff4 1ff7 ab70-abbf",
       "fb00-fb06 fb13-fb17"])

end TextGen.Unicode.Property
