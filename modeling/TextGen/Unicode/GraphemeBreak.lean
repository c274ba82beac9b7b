import TextGen.Unicode.Property

/-! Classes of characters for the division of a text into what readers take for one character. -/
namespace TextGen.Unicode.GraphemeBreak

def control : Property where
  categories := [.lineSeparator, .paragraphSeparator, .control, .format]
  further := .ofLines ["2065 fff0-fff8 e0000 e0002-e001f e0080-e00ff e01f0-e0fff"]
  without := .ofLines
    ["a d 600-605 6dd 70f 890-891 8e2 200c-200d 110bd 110cd e0020-e007f"]

def extend : Property where
  categories := [.nonspacingMark, .enclosingMark]
  further := .ofLines
    ["9be 9d7 b3e b57 bbe bd7 cc0 cc2 cc7-cc8 cca-ccb cd5-cd6 d3e d57 dcf ddf 1715 1734 1b35 1b3b",
     "1b3d 1b43-1b44 1baa 1bf2-1bf3 200c 302e-302f a953 a9c0 ff9e-ff9f 111c0 11235 1133e 1134d",
     "11357 113b8 113c2 113c5 113c7-113c9 113cf 114b0 114bd 115af 116b6 11930 1193d 11f41",
     "16ff0-16ff1 1d165-1d166 1d16d-1d172 1f3fb-1f3ff e0020-e007f"]

def prepend : Property := .ofLines
  ["600-605 6dd 70f 890-891 8e2 d4e 110bd 110cd 111c2-111c3 113d1 1193f 11941 11a3a 11a84-11a89",
   "11d46 11f02"]

def spacingMark : Property where
  categories := [.spacingMark]
  further := .ofLines ["e33 eb3"]
  without := .ofLines
    ["9be 9d7 b3e b57 bbe bd7 cc0 cc2 cc7-cc8 cca-ccb cd5-cd6 d3e d57 dcf ddf 102b-102c 1038",
     "1062-1064 1067-106d 1083 1087-108c 108f 109a-109c 1715 1734 1a61 1a63-1a64 1b35 1b3b 1b3d",
     "1b43-1b44 1baa 1bf2-1bf3 302e-302f a953 a9c0 aa7b aa7d 111c0 11235 1133e 1134d 11357 113b8",
     "113c2 113c5 113c7-113c9 113cf 114b0 114bd 115af 116b6 11720-11721 11930 1193d 11f41",
     "16ff0-16ff1 1d165-1d166 1d16d-1d172"]

def regionalIndicator : Property := .ofLines ["1f1e6-1f1ff"]

def leading : Property := .ofLines ["1100-115f a960-a97c"]

def vowel : Property := .ofLines ["1160-11a7 d7b0-d7c6 16d63 16d67-16d6a"]

def trailing : Property := .ofLines ["11a8-11ff d7cb-d7fb"]

def consonantVowel : Property where
  further := Ranges.ofList ((List.range 399).map fun k => (0xac00 + 28 * k, 0xac00 + 28 * k))

def consonantVowelConsonant : Property where
  further := #[(0xac00, 0xd7a3)]
  without := consonantVowel.further

def joiner : Property := .ofLines ["200d"]

def carriageReturn : Property := .ofLines ["d"]

def lineFeed : Property := .ofLines ["a"]

/-- The class with the given name, which has no capitals. -/
def ofName? (name : String) : Option Property :=
  match name with
  | "cn" | "control" => some control
  | "ex" | "extend" => some extend
  | "pp" | "prepend" => some prepend
  | "sm" | "spacingmark" => some spacingMark
  | "ri" | "regionalindicator" => some regionalIndicator
  | "l" => some leading
  | "v" => some vowel
  | "t" => some trailing
  | "lv" => some consonantVowel
  | "lvt" => some consonantVowelConsonant
  | "zwj" => some joiner
  | "cr" => some carriageReturn
  | "lf" => some lineFeed
  | _ => none

end TextGen.Unicode.GraphemeBreak
