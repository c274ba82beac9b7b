import TextGen.Unicode.Category

/-! Derived properties of characters.
A property is a union of general categories and a table of further characters, without those of
another table. The letters, digits and signs of ASCII are decided without a look-up. -/
namespace TextGen.Unicode

structure Property where
  categories : List Category := []
  further : Ranges := #[]
  without : Ranges := #[]
deriving Repr, Inhabited

namespace Property

def holds (p : Property) (c : Char) : Bool :=
  (p.categories.contains (category c) || p.further.contains c.toNat)
    && !p.without.contains c.toNat

def ranges (p : Property) : Ranges :=
  ((Category.ranges p.categories).union p.further).diff p.without

def ofLines (lines : List String) : Property := { further := .ofLines lines }

def letters : List Category :=
  [.upperLetter, .lowerLetter, .titleLetter, .modifierLetter, .otherLetter]

def marks : List Category := [.nonspacingMark, .spacingMark, .enclosingMark]

def numbers : List Category := [.decimalNumber, .letterNumber, .otherNumber]

def punctuation : List Category :=
  [.connectorPunctuation, .dashPunctuation, .openPunctuation, .closePunctuation,
    .initialPunctuation, .finalPunctuation, .otherPunctuation]

def symbols : List Category := [.mathSymbol, .currencySymbol, .modifierSymbol, .otherSymbol]

def alphabetic : Property where
  categories := letters ++ [.letterNumber]
  further := .ofLines
    ["345 363-36f 5b0-5bd 5bf 5c1-5c2 5c4-5c5 5c7 610-61a 64b-657 659-65f 670 6d6-6dc 6e1-6e4",
     "6e7-6e8 6ed 711 730-73f 7a6-7b0 816-817 81b-823 825-827 829-82c 897 8d4-8df 8e3-8e9 8f0-903",
     "93a-93b 93e-94c 94e-94f 955-957 962-963 981-983 9be-9c4 9c7-9c8 9cb-9cc 9d7 9e2-9e3 a01-a03",
     "a3e-a42 a47-a48 a4b-a4c a51 a70-a71 a75 a81-a83 abe-ac5 ac7-ac9 acb-acc ae2-ae3 afa-afc",
     "b01-b03 b3e-b44 b47-b48 b4b-b4c b56-b57 b62-b63 b82 bbe-bc2 bc6-bc8 bca-bcc bd7 c00-c04",
     "c3e-c44 c46-c48 c4a-c4c c55-c56 c62-c63 c81-c83 cbe-cc4 cc6-cc8 cca-ccc cd5-cd6 ce2-ce3 cf3",
     "d00-d03 d3e-d44 d46-d48 d4a-d4c d57 d62-d63 d81-d83 dcf-dd4 dd6 dd8-ddf df2-df3 e31 e34-e3a",
     "e4d eb1 eb4-eb9 ebb-ebc ecd f71-f83 f8d-f97 f99-fbc 102b-1036 1038 103b-103e 1056-1059",
     "105e-1060 1062-1064 1067-106d 1071-1074 1082-108d 108f 109a-109d 1712-1713 1732-1733",
     "1752-1753 1772-1773 17b6-17c8 1885-1886 18a9 1920-192b 1930-1938 1a17-1a1b 1a55-1a5e",
     "1a61-1a74 1abf-1ac0 1acc-1ace 1b00-1b04 1b35-1b43 1b80-1b82 1ba1-1ba9 1bac-1bad 1be7-1bf1",
     "1c24-1c36 1dd3-1df4 24b6-24e9 2de0-2dff a674-a67b a69e-a69f a802 a80b a823-a827 a880-a881",
     "a8b4-a8c3 a8c5 a8ff a926-a92a a947-a952 a980-a983 a9b4-a9bf a9e5 aa29-aa36 aa43 aa4c-aa4d",
     "aa7b-aa7d aab0 aab2-aab4 aab7-aab8 aabe aaeb-aaef aaf5 abe3-abea fb1e 10376-1037a",
     "10a01-10a03 10a05-10a06 10a0c-10a0f 10d24-10d27 10d69 10eab-10eac 10efc 11000-11002",
     "11038-11045 11073-11074 11080-11082 110b0-110b8 110c2 11100-11102 11127-11132 11145-11146",
     "11180-11182 111b3-111bf 111ce-111cf 1122c-11234 11237 1123e 11241 112df-112e8 11300-11303",
     "1133e-11344 11347-11348 1134b-1134c 11357 11362-11363 113b8-113c0 113c2 113c5 113c7-113ca",
     "113cc-113cd 11435-11441 11443-11445 114b0-114c1 115af-115b5 115b8-115be 115dc-115dd",
     "11630-1163e 11640 116ab-116b5 1171d-1172a 1182c-11838 11930-11935 11937-11938 1193b-1193c",
     "11940 11942 119d1-119d7 119da-119df 119e4 11a01-11a0a 11a35-11a39 11a3b-11a3e 11a51-11a5b",
     "11a8a-11a97 11c2f-11c36 11c38-11c3e 11c92-11ca7 11ca9-11cb6 11d31-11d36 11d3a 11d3c-11d3d",
     "11d3f-11d41 11d43 11d47 11d8a-11d8e 11d90-11d91 11d93-11d96 11ef3-11ef6 11f00-11f01 11f03",
     "11f34-11f3a 11f3e-11f40 1611e-1612e 16f4f 16f51-16f87 16f8f-16f92 16ff0-16ff1 1bc9e",
     "1e000-1e006 1e008-1e018 1e01b-1e021 1e023-1e024 1e026-1e02a 1e08f 1e947 1f130-1f149",
     "1f150-1f169 1f170-1f189"]

def lowercase : Property where
  categories := [.lowerLetter]
  further := .ofLines
    ["aa ba 2b0-2b8 2c0-2c1 2e0-2e4 345 37a 10fc 1d2c-1d6a 1d78 1d9b-1dbf 2071 207f 2090-209c",
     "2170-217f 24d0-24e9 2c7c-2c7d a69c-a69d a770 a7f2-a7f4 a7f8-a7f9 ab5c-ab5f ab69 10780",
     "10783-10785 10787-107b0 107b2-107ba 1e030-1e06d"]

def uppercase : Property where
  categories := [.upperLetter]
  further := .ofLines ["2160-216f 24b6-24cf 1f130-1f149 1f150-1f169 1f170-1f189"]

def cased : Property where
  categories := [.lowerLetter, .upperLetter, .titleLetter]
  further := lowercase.further.union uppercase.further

def caseIgnorable : Property where
  categories := [.nonspacingMark, .enclosingMark, .format, .modifierLetter, .modifierSymbol]
  further := .ofLines
    ["27 2e 3a b7 387 55f 5f4 2018-2019 2024 2027 fe13 fe52 fe55 ff07 ff0e ff1a"]

def graphemeExtend : Property where
  categories := [.nonspacingMark, .enclosingMark]
  further := .ofLines
    ["9be 9d7 b3e b57 bbe bd7 cc0 cc2 cc7-cc8 cca-ccb cd5-cd6 d3e d57 dcf ddf 1715 1734 1b35 1b3b",
     "1b3d 1b43-1b44 1baa 1bf2-1bf3 200c 302e-302f a953 a9c0 ff9e-ff9f 111c0 11235 1133e 1134d",
     "11357 113b8 113c2 113c5 113c7-113c9 113cf 114b0 114bd 115af 116b6 11930 1193d 11f41",
     "16ff0-16ff1 1d165-1d166 1d16d-1d172 e0020-e007f"]

def graphemeBase : Property where
  categories := letters ++ numbers ++ punctuation ++ symbols ++ [.spacingMark, .spaceSeparator]
  without := graphemeExtend.further

def idStart : Property where
  categories := letters ++ [.letterNumber]
  further := .ofLines ["1885-1886 2118 212e 309b-309c"]
  without := .ofLines ["2e2f"]

def idContinue : Property where
  categories := idStart.categories
    ++ [.nonspacingMark, .spacingMark, .decimalNumber, .connectorPunctuation]
  further := .ofLines ["b7 387 1369-1371 19da 200c-200d 2118 212e 309b-309c 30fb ff65"]
  without := .ofLines ["2e2f"]

def xidStart : Property where
  categories := letters ++ [.letterNumber]
  further := .ofLines ["1885-1886 2118 212e"]
  without := .ofLines
    ["37a e33 eb3 2e2f fc5e-fc63 fdfa-fdfb fe70 fe72 fe74 fe76 fe78 fe7a fe7c fe7e ff9e-ff9f"]

def xidContinue : Property where
  categories := idContinue.categories
  further := .ofLines ["b7 387 1369-1371 19da 200c-200d 2118 212e 30fb ff65"]
  without := .ofLines
    ["37a 2e2f fc5e-fc63 fdfa-fdfb fe70 fe72 fe74 fe76 fe78 fe7a fe7c fe7e"]

def defaultIgnorable : Property where
  categories := [.format]
  further := .ofLines
    ["34f 115f-1160 17b4-17b5 180b-180d 180f 2065 3164 fe00-fe0f ffa0 fff0-fff8 e0000 e0002-e001f",
     "e0080-e0fff"]
  without := .ofLines ["600-605 6dd 70f 890-891 8e2 fff9-fffb 110bd 110cd 13430-1343f"]

def math : Property where
  categories := [.mathSymbol]
  further := .ofLines
    ["5e 3d0-3d2 3d5 3f0-3f1 3f4-3f5 2016 2032-2034 2040 2061-2064 207d-207e 208d-208e 20d0-20dc",
     "20e1 20e5-20e6 20eb-20ef 2102 2107 210a-2113 2115 2119-211d 2124 2128-2129 212c-212d",
     "212f-2131 2133-2138 213c-213f 2145-2149 2195-2199 219c-219f 21a1-21a2 21a4-21a5 21a7",
     "21a9-21ad 21b0-21b1 21b6-21b7 21bc-21cd 21d0-21d1 21d3 21d5-21db 21dd 21e4-21e5 2308-230b",
     "23b4-23b5 23b7 23d0 23e2 25a0-25a1 25ae-25b6 25bc-25c0 25c6-25c7 25ca-25cb 25cf-25d3 25e2",
     "25e4 25e7-25ec 2605-2606 2640 2642 2660-2663 266d-266e 27c5-27c6 27e6-27ef 2983-2998",
     "29d8-29db 29fc-29fd fe61 fe63 fe68 ff3c ff3e 1d400-1d454 1d456-1d49c 1d49e-1d49f 1d4a2",
     "1d4a5-1d4a6 1d4a9-1d4ac 1d4ae-1d4b9 1d4bb 1d4bd-1d4c3 1d4c5-1d505 1d507-1d50a 1d50d-1d514",
     "1d516-1d51c 1d51e-1d539 1d53b-1d53e 1d540-1d544 1d546 1d54a-1d550 1d552-1d6a5 1d6a8-1d6c0",
     "1d6c2-1d6da 1d6dc-1d6fa 1d6fc-1d714 1d716-1d734 1d736-1d74e 1d750-1d76e 1d770-1d788",
     "1d78a-1d7a8 1d7aa-1d7c2 1d7c4-1d7cb 1d7ce-1d7ff 1ee00-1ee03 1ee05-1ee1f 1ee21-1ee22 1ee24",
     "1ee27 1ee29-1ee32 1ee34-1ee37 1ee39 1ee3b 1ee42 1ee47 1ee49 1ee4b 1ee4d-1ee4f 1ee51-1ee52",
     "1ee54 1ee57 1ee59 1ee5b 1ee5d 1ee5f 1ee61-1ee62 1ee64 1ee67-1ee6a 1ee6c-1ee72 1ee74-1ee77",
     "1ee79-1ee7c 1ee7e 1ee80-1ee89 1ee8b-1ee9b 1eea1-1eea3 1eea5-1eea9 1eeab-1eebb"]

def whiteSpace : Property where
  categories := [.spaceSeparator, .lineSeparator, .paragraphSeparator]
  further := .ofLines ["9-d 85"]

def joinControl : Property where
  further := #[(0x200c, 0x200d)]

def word : Property where
  categories := letters ++ marks ++ [.letterNumber, .decimalNumber, .connectorPunctuation]
  further := alphabetic.further.union joinControl.further

end Property

def isAlphabetic (c : Char) : Bool :=
  if c.toNat < 128 then c.isAlpha else Property.alphabetic.holds c

def isNumeric (c : Char) : Bool :=
  if c.toNat < 128 then c.isDigit else (category c).group = 'N'

def isAlphanumeric (c : Char) : Bool := isAlphabetic c || isNumeric c

def isLowercase (c : Char) : Bool :=
  if c.toNat < 128 then c.isLower else Property.lowercase.holds c

def isUppercase (c : Char) : Bool :=
  if c.toNat < 128 then c.isUpper else Property.uppercase.holds c

def isCased (c : Char) : Bool :=
  if c.toNat < 128 then c.isAlpha else Property.cased.holds c

def isCaseIgnorable (c : Char) : Bool := Property.caseIgnorable.holds c

def isExtending (c : Char) : Bool :=
  if c.toNat < 128 then false else Property.graphemeExtend.holds c

/-- Characters that show as themselves: all but controls, separators other than the plain space,
and code points that stand for no character. -/
def isPrintable (c : Char) : Bool :=
  if c.toNat < 128 then 32 ≤ c.toNat && c.toNat < 127
  else match (category c).group with
    | 'C' | 'Z' => false
    | _ => true

def isWordChar (c : Char) : Bool :=
  if c.toNat < 128 then c.isAlphanum || c = '_' else Property.word.holds c

def isDecimalDigit (c : Char) : Bool :=
  if c.toNat < 128 then c.isDigit else category c = .decimalNumber

end TextGen.Unicode
