import TextGen.Unicode.Property

/-! Ideographs and the signs that describe them.
A sign of description is followed by one, two or three parts. -/
namespace TextGen.Unicode.Property

def ideographic : Property := .ofLines
  ["3006-3007 3021-3029 3038-303a 3400-4dbf 4e00-9fff f900-fa6d fa70-fad9 16fe4 17000-187f7",
   "18800-18cd5 18cff-18d08 1b170-1b2fb 20000-2a6df 2a700-2b739 2b740-2b81d 2b820-2cea1",
   "2ceb0-2ebe0 2ebf0-2ee5d 2f800-2fa1d 30000-3134a 31350-323af"]

def unifiedIdeograph : Property := .ofLines
  ["3400-4dbf 4e00-9fff fa0e-fa0f fa11 fa13-fa14 fa1f fa21 fa23-fa24 fa27-fa29 20000-2a6df",
   "2a700-2b739 2b740-2b81d 2b820-2cea1 2ceb0-2ebe0 2ebf0-2ee5d 30000-3134a 31350-323af"]

def radical : Property := .ofLines ["2e80-2e99 2e9b-2ef3 2f00-2fd5"]

def unaryDescription : Property := .ofLines ["2ffe-2fff"]

def binaryDescription : Property := .ofLines ["2ff0-2ff1 2ff4-2ffd 31ef"]

def trinaryDescription : Property := .ofLines ["2ff2-2ff3"]

end TextGen.Unicode.Property
