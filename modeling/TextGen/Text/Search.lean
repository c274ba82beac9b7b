/-! Looking for one text in another.
An occurrence is a place at which the whole needle stands, so the empty needle occurs at the
start of every text. -/
namespace TextGen.Text

def dropPrefix? : List Char → List Char → Option (List Char)
  | [], text => some text
  | _ :: _, [] => none
  | a :: needle, c :: text => if a = c then dropPrefix? needle text else none

def cut? (needle : List Char) : List Char → Option (List Char × List Char)
  | [] => if needle = [] then some ([], []) else none
  | c :: text =>
    match dropPrefix? needle (c :: text) with
    | some after => some ([], after)
    | none => (cut? needle text).map fun (before, after) => (c :: before, after)

def endsWith (text ending : List Char) : Bool := (dropPrefix? ending.reverse text.reverse).isSome

/-- The text with every occurrence exchanged, from left to right and without overlaps. The first
number counts the characters of an occurrence that are still to be passed over. -/
def replaceFrom (needle new : List Char) : Nat → List Char → List Char
  | _, [] => []
  | skip + 1, _ :: text => replaceFrom needle new skip text
  | 0, c :: text =>
    if (dropPrefix? needle (c :: text)).isSome then
      new ++ replaceFrom needle new (needle.length - 1) text
    else c :: replaceFrom needle new 0 text

def replaceAll (needle new text : List Char) : List Char := replaceFrom needle new 0 text

def hasRun {α : Type} [BEq α] (run : List α) : List α → Bool
  | [] => run.isEmpty
  | x :: xs => run.isPrefixOf (x :: xs) || hasRun run xs

end TextGen.Text
