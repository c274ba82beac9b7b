import TextGen.Unicode.Property

/-! Code points with a task of their own, and those that should not be used. -/
namespace TextGen.Unicode.Property

def bidiControl : Property := .ofLines ["61c 200e-200f 202a-202e 2066-2069"]

def logicalOrderException : Property := .ofLines
  ["e40-e44 ec0-ec4 19b5-19b7 19ba aab5-aab6 aab9 aabb-aabc"]

def noncharacter : Property := .ofLines
  ["fdd0-fdef fffe-ffff 1fffe-1ffff 2fffe-2ffff 3fffe-3ffff 4fffe-4ffff 5fffe-5ffff 6fffe-6ffff",
   "7fffe-7ffff 8fffe-8ffff 9fffe-9ffff afffe-affff bfffe-bffff cfffe-cffff dfffe-dffff",
   "efffe-effff ffffe-fffff 10fffe-10ffff"]

def deprecated : Property := .ofLines ["149 673 f77 f79 17a3-17a4 206a-206f 2329-232a e0001"]

def furtherIgnorable : Property := .ofLines
  ["34f 115f-1160 17b4-17b5 2065 3164 ffa0 fff0-fff8 e0000 e0002-e001f e0080-e00ff e01f0-e0fff"]

end TextGen.Unicode.Property
