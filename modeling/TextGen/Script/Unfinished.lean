import TextGen.Script.Cursor
import TextGen.Text.Split

/-! Texts in which something is left to resolve.
The test looks at the signs that open a construct and at what directly follows them. It does not
read the constructs. -/
namespace TextGen.Script

/-- Whether a construct opens at the start of a text: a symbol, an assignment of a source,
parentheses that hold something, or braces with a symbol. -/
def opensConstruct : List Char → Bool
  | '$' :: next :: _ => Cursor.isNameStart next
  | '&' :: next :: rest =>
    Cursor.isNameStart next
      && ((rest.dropWhile Cursor.isNameChar).dropWhile Text.isBlank).head? == some '='
  | '(' :: next :: _ => next ≠ ')'
  | '\x7b' :: rest => (rest.dropWhile Text.isBlank).head? == some '$'
  | _ => false

def holdsConstruct : List Char → Bool
  | [] => false
  | c :: rest => opensConstruct (c :: rest) || holdsConstruct rest

/-- Whether a further pass could resolve something in the text. -/
def isUnfinished (text : String) : Bool := holdsConstruct text.toList

end TextGen.Script
