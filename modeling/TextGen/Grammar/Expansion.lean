import TextGen.Grammar.Rules
import TextGen.Run
import TextGen.Text.Entity
import TextGen.Text.Search

/-! Expansion of a rule.
The text starts as the name of the rule. A step takes the first rule, in the order of the grammar,
whose name occurs in the text and exchanges the leftmost occurrence for one of its productions. The
steps end when no name occurs or when their number reaches the limit, and then character references
are decoded. An expansion breaks off where a draw fails. -/
namespace TextGen.Grammar

/-- The production chosen, by weight if there are several. A rule without productions gives the
empty text. -/
def Rule.pick (r : Rule) (s : Source) : Drawn Source String :=
  match r.productions with
  | [] => (.ok "", s)
  | [only] => (.ok only.text, s)
  | first :: others =>
    (s.weightedIndex? ((first :: others).map (·.weight))).andThen fun i s =>
      (.ok (((first :: others)[i.getD 0]?).getD first).text, s)

/-- The rule that is to be applied, and what stands before and after its name. -/
def applicable? (g : Grammar) (text : List Char) : Option (Rule × List Char × List Char) :=
  g.rules.findSome? fun r => (Text.cut? r.name.toList text).map (r, ·)

def step? (g : Grammar) (text : List Char) (s : Source) : Option (Drawn Source (List Char)) :=
  (g.applicable? text).map fun (r, before, after) =>
    (r.pick s).andThen fun production s => (.ok (before ++ production.toList ++ after), s)

/-- How the steps end: no rule applies, there are as many as are allowed, or a draw fails. -/
inductive Ending where
  | complete
  | capped
  | failed (f : Failure)
deriving DecidableEq, Repr

/-- A derived text, how the steps have ended, and the source that is left. -/
structure Derivation where
  text : List Char
  ending : Ending
  source : Source

def derive (g : Grammar) : Nat → List Char → Source → Derivation
  | 0, text, s => ⟨text, .capped, s⟩
  | limit + 1, text, s =>
    match g.step? text s with
    | some (.ok text, s) => g.derive limit text s
    | some (.error f, s) => ⟨text, .failed f, s⟩
    | none => ⟨text, .complete, s⟩

def capText (limit : Nat) (name : String) : String :=
  "max number of iterations reached (" ++ toString limit ++ ") expanding '" ++ name ++ "'"

def expandFrom (g : Grammar) (name : String) (r : Run) : Drawn Run (Except Error String) :=
  if g.rules.isEmpty then (.ok (.error .noRules), r)
  else if g.hasRule name then
    let limit := g.options.maxIterations
    let final := g.derive limit name.toList r.source
    let r := { r with source := final.source }
    let text := Text.Entity.decode (String.ofList final.text)
    match final.ending with
    | .complete => (.ok (.ok text), r)
    | .capped => (.ok (.ok text), r.warn (capText limit name))
    | .failed f => (.error f, r)
  else (.ok (.error (.ruleNotFound name)), r)

def expand (g : Grammar) (r : Run) : Drawn Run (Except Error String) :=
  g.expandFrom g.options.startRule r

end TextGen.Grammar
