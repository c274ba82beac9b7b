import TextGen.Script.Pass

/-! Evaluation of scripts.
Passes follow one another until nothing is left to resolve, a pass changes nothing, or their number
reaches its limit. Only a script that cannot be read at all is an error. An evaluation breaks off
where a draw fails. -/
namespace TextGen

namespace Script

structure Options where
  maxPasses : Nat := 20
  silent : Bool := false
  trace : Bool := false
deriving DecidableEq, Repr

end Script

structure Script where
  transforms : Script.Transforms := .regular .regular
  options : Script.Options := {}

namespace Script

def settings (script : Script) : Settings :=
  ⟨script.transforms, script.options.silent, script.options.trace⟩

def warn (script : Script) (text : String) (s : State) : State :=
  if script.options.silent then s else { s with run := s.run.warn text }

def tell (script : Script) (text : String) (s : State) : State :=
  if script.options.trace then { s with run := s.run.note .debug text } else s

/-- One pass over a text; whether its result needs another one comes second. -/
def evaluatePass (script : Script) (number : Nat) (text : String) (s : State) :
    Drawn State (Except ParseError (String × Bool)) :=
  match Tree.ofText? text with
  | .error e => (.ok (.error e), s)
  | .ok tree =>
    (runPass script.settings number tree s).andThen fun output s =>
      (.ok (.ok (output, isUnfinished output)), s)

def passes (script : Script) : Nat → Nat → String → State → Drawn State (Except ParseError String)
  | 0, number, text, s =>
    (.ok (.ok text), script.warn ("stopped after " ++ toString number
      ++ " passes with unresolved text '" ++ text ++ "'") s)
  | left + 1, number, text, s =>
    (script.evaluatePass number text s).andThen fun outcome s =>
      match outcome with
      | .error e =>
        if number = 0 then (.ok (.error e), s)
        else (.ok (.ok text), script.warn ("pass " ++ toString number ++ " left unparseable text '"
          ++ text ++ "': " ++ e.message) s)
      | .ok (output, unfinished) =>
        let s := script.tell ("pass " ++ toString number ++ ": '" ++ output ++ "'") s
        if unfinished ∧ output ≠ text then script.passes left (number + 1) output s
        else (.ok (.ok output), s)

def evaluate (script : Script) (text : String) (s : State) :
    Drawn State (Except ParseError String) :=
  script.passes script.options.maxPasses 0 text s

end Script

end TextGen
