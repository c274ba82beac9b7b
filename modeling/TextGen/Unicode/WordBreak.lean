import TextGen.Unicode.Property

/-! Classes of characters for the division of a text into words. -/
namespace TextGen.Unicode.WordBreak

def letter : Property where
  categories := Property.letters ++ [.letterNumber]
  further := .ofLines
    ["2c2-2c5 2d2-2d7 2de-2df 2e5-2eb 2ed 2ef-2ff 55a-55c 55e 58a 5f3 70f 24b6-24e9 a708-a716",
     "a720-a721 a789-a78a ab5b 1f130-1f149 1f150-1f169 1f170-1f189"]
  without := .ofLines
    ["5d0-5ea 5ef-5f2 e01-e30 e32-e33 e40-e46 e81-e82 e84 e86-e8a e8c-ea3 ea5 ea7-eb0 eb2-eb3 ebd",
     "ec0-ec4 ec6 edc-edf 1000-102a 103f 1050-1055 105a-105d 1061 1065-1066 106e-1070 1075-1081",
     "108e 1780-17b3 17d7 17dc 1950-196d 1970-1974 1980-19ab 19b0-19c9 1a20-1a54 1aa7 3006-3007",
     "3021-3029 3031-3035 3038-303a 3041-3096 309d-309f 30a1-30fa 30fc-30ff 31f0-31ff 3400-4dbf",
     "4e00-9fff a9e0-a9e4 a9e6-a9ef a9fa-a9fe aa60-aa76 aa7a aa7e-aaaf aab1 aab5-aab6 aab9-aabd",
     "aac0 aac2 aadb-aadd f900-fa6d fa70-fad9 fb1d fb1f-fb28 fb2a-fb36 fb38-fb3c fb3e fb40-fb41",
     "fb43-fb44 fb46-fb4f ff66-ff9f 11700-1171a 11740-11746 17000-187f7 18800-18cd5 18cff-18d08",
     "1aff0-1aff3 1aff5-1affb 1affd-1affe 1b000-1b122 1b132 1b150-1b152 1b155 1b164-1b167",
     "1b170-1b2fb 20000-2a6df 2a700-2b739 2b740-2b81d 2b820-2cea1 2ceb0-2ebe0 2ebf0-2ee5d",
     "2f800-2fa1d 30000-3134a 31350-323af"]

def hebrewLetter : Property := .ofLines
  ["5d0-5ea 5ef-5f2 fb1d fb1f-fb28 fb2a-fb36 fb38-fb3c fb3e fb40-fb41 fb43-fb44 fb46-fb4f"]

def katakana : Property := .ofLines
  ["3031-3035 309b-309c 30a0-30fa 30fc-30ff 31f0-31ff 32d0-32fe 3300-3357 ff66-ff9d 1aff0-1aff3",
   "1aff5-1affb 1affd-1affe 1b000 1b120-1b122 1b155 1b164-1b167"]

def number : Property where
  categories := [.decimalNumber]
  further := .ofLines ["600-605 66b 6dd 890-891 8e2 110bd 110cd"]

def connector : Property where
  categories := [.connectorPunctuation]
  further := .ofLines ["202f"]

/-- Signs that do not end a word between letters, between numbers, or between both. -/
def midLetter : Property := .ofLines ["3a b7 387 55f 5f4 2027 fe13 fe55 ff1a"]

def midNumber : Property := .ofLines
  ["2c 3b 37e 589 60c-60d 66c 7f8 2044 fe10 fe14 fe50 fe54 ff0c ff1b"]

def midNumberLetter : Property := .ofLines ["2e 2018-2019 2024 fe52 ff07 ff0e"]

def singleQuote : Property := .ofLines ["27"]

def doubleQuote : Property := .ofLines ["22"]

def extend : Property where
  categories := [.nonspacingMark, .enclosingMark, .spacingMark]
  further := .ofLines ["200c ff9e-ff9f 1f3fb-1f3ff e0020-e007f"]

def format : Property where
  categories := [.format]
  without := .ofLines ["600-605 6dd 70f 890-891 8e2 200b-200d 110bd 110cd e0020-e007f"]

def regionalIndicator : Property := .ofLines ["1f1e6-1f1ff"]

def joiner : Property := .ofLines ["200d"]

def space : Property := .ofLines ["20 1680 2000-2006 2008-200a 205f 3000"]

def newline : Property := .ofLines ["b-c 85 2028-2029"]

def carriageReturn : Property := .ofLines ["d"]

def lineFeed : Property := .ofLines ["a"]

/-- The class with the given name, which has no capitals. -/
def ofName? (name : String) : Option Property :=
  match name with
  | "le" | "aletter" => some letter
  | "hl" | "hebrewletter" => some hebrewLetter
  | "ka" | "katakana" => some katakana
  | "nu" | "numeric" => some number
  | "ex" | "extendnumlet" => some connector
  | "ml" | "midletter" => some midLetter
  | "mn" | "midnum" => some midNumber
  | "mb" | "midnumlet" => some midNumberLetter
  | "sq" | "singlequote" => some singleQuote
  | "dq" | "doublequote" => some doubleQuote
  | "extend" => some extend
  | "fo" | "format" => some format
  | "ri" | "regionalindicator" => some regionalIndicator
  | "zwj" => some joiner
  | "wsegspace" => some space
  | "nl" | "newline" => some newline
  | "cr" => some carriageReturn
  | "lf" => some lineFeed
  | _ => none

end TextGen.Unicode.WordBreak
