import TextGen.Unicode.Property

/-! What may stand in a name beside letters and marks, and the digits of numbers to base sixteen. -/
namespace TextGen.Unicode.Property

def hexDigit : Property := .ofLines ["30-39 41-46 61-66 ff10-ff19 ff21-ff26 ff41-ff46"]

def asciiHexDigit : Property := .ofLines ["30-39 41-46 61-66"]

/-- Characters that begin names though they are no letters, or were letters once. -/
def furtherIdStart : Property := .ofLines ["1885-1886 2118 212e 309b-309c"]

def furtherIdContinue : Property := .ofLines ["b7 387 1369-1371 19da 200c-200d 30fb ff65"]

def mathIdStart : Property := .ofLines
  ["2202 2207 221e 1d6c1 1d6db 1d6fb 1d715 1d735 1d74f 1d76f 1d789 1d7a9 1d7c3"]

def mathIdContinue : Property := .ofLines
  ["b2-b3 b9 2070 2074-207e 2080-208e 2202 2207 221e 1d6c1 1d6db 1d6fb 1d715 1d735 1d74f 1d76f",
   "1d789 1d7a9 1d7c3"]

end TextGen.Unicode.Property
