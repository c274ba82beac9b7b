import TextGen.Unicode.Property

/-! Classes of characters for the division of a text into sentences. -/
namespace TextGen.Unicode.SentenceBreak

def lower : Property where
  categories := [.lowerLetter]
  further := .ofLines
    ["aa ba 2b0-2b8 2c0-2c1 2e0-2e4 37a 10fc 1d2c-1d6a 1d78 1d9b-1dbf 2071 207f 2090-209c",
     "2170-217f 24d0-24e9 2c7c-2c7d a69c-a69d a770 a7f2-a7f4 a7f8-a7f9 ab5c-ab5f ab69 10780",
     "10783-10785 10787-107b0 107b2-107ba 1e030-1e06d"]
  without := .ofLines ["10d0-10fa 10fd-10ff"]

def upper : Property where
  categories := [.upperLetter, .titleLetter]
  further := .ofLines ["2160-216f 24b6-24cf 1f130-1f149 1f150-1f169 1f170-1f189"]
  without := .ofLines ["1c90-1cba 1cbd-1cbf"]

def letter : Property where
  categories := [.modifierLetter, .otherLetter, .letterNumber]
  further := .ofLines ["5f3 10d0-10fa 10fd-10ff 1c90-1cba 1cbd-1cbf"]
  without := .ofLines
    ["aa ba 2b0-2b8 2c0-2c1 2e0-2e4 37a 10fc 1d2c-1d6a 1d78 1d9b-1dbf 2071 207f 2090-209c",
     "2160-217f 2c7c-2c7d a69c-a69d a770 a7f2-a7f4 a7f8-a7f9 ab5c-ab5f ab69 ff9e-ff9f 10780",
     "10783-10785 10787-107b0 107b2-107ba 1e030-1e06d"]

def number : Property where
  categories := [.decimalNumber]
  further := .ofLines ["600-605 66b-66c 6dd 890-891 8e2 110bd 110cd"]

def stop : Property := .ofLines ["2e 2024 fe52 ff0e"]

def terminal : Property := .ofLines
  ["21 3f 589 61d-61f 6d4 700-702 7f9 837 839 83d-83e 964-965 104a-104b 1362 1367-1368 166e",
   "1735-1736 17d4-17d5 1803 1809 1944-1945 1aa8-1aab 1b4e-1b4f 1b5a-1b5b 1b5e-1b5f 1b7d-1b7f",
   "1c3b-1c3c 1c7e-1c7f 203c-203d 2047-2049 2cf9-2cfb 2e2e 2e3c 2e53-2e54 3002 a4ff a60e-a60f",
   "a6f3 a6f7 a876-a877 a8ce-a8cf a92f a9c8-a9c9 aa5d-aa5f aaf0-aaf1 abeb fe12 fe15-fe16",
   "fe56-fe57 ff01 ff1f ff61 10a56-10a57 10f55-10f59 10f86-10f89 11047-11048 110be-110c1",
   "11141-11143 111c5-111c6 111cd 111de-111df 11238-11239 1123b-1123c 112a9 113d4-113d5",
   "1144b-1144c 115c2-115c3 115c9-115d7 11641-11642 1173c-1173e 11944 11946 11a42-11a43",
   "11a9b-11a9c 11c41-11c42 11ef7-11ef8 11f43-11f44 16a6e-16a6f 16af5 16b37-16b38 16b44",
   "16d6e-16d6f 16e98 1bc9f 1da88"]

def continuation : Property := .ofLines
  ["2c-2d 3a-3b 37e 55d 60c-60d 7f8 1802 1808 2013-2014 3001 fe10-fe11 fe13-fe14 fe31-fe32",
   "fe50-fe51 fe54-fe55 fe58 fe63 ff0c-ff0d ff1a-ff1b ff64"]

def closing : Property where
  categories := [.openPunctuation, .closePunctuation, .initialPunctuation, .finalPunctuation]
  further := .ofLines ["22 27 275b-2760 2e00-2e01 2e06-2e08 2e0b 1f676-1f678"]

def extend : Property where
  categories := [.nonspacingMark, .enclosingMark, .spacingMark]
  further := .ofLines ["200c-200d ff9e-ff9f e0020-e007f"]

def format : Property where
  categories := [.format]
  without := .ofLines ["600-605 6dd 70f 890-891 8e2 200c-200d 110bd 110cd e0020-e007f"]

def space : Property where
  categories := [.spaceSeparator]
  further := .ofLines ["9 b-c"]

def separator : Property := .ofLines ["85 2028-2029"]

def carriageReturn : Property := .ofLines ["d"]

def lineFeed : Property := .ofLines ["a"]

/-- The class with the given name, which has no capitals. -/
def ofName? (name : String) : Option Property :=
  match name with
  | "lo" | "lower" => some lower
  | "up" | "upper" => some upper
  | "le" | "oletter" => some letter
  | "nu" | "numeric" => some number
  | "at" | "aterm" => some stop
  | "st" | "sterm" => some terminal
  | "sc" | "scontinue" => some continuation
  | "cl" | "close" => some closing
  | "ex" | "extend" => some extend
  | "fo" | "format" => some format
  | "sp" => some space
  | "se" | "sep" => some separator
  | "cr" => some carriageReturn
  | "lf" => some lineFeed
  | _ => none

end TextGen.Unicode.SentenceBreak
