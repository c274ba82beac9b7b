import Mathlib
import TextGen.Proofs.Script.Visits

/-! What an interpreter has left over from its last pass.
Besides the states of choices it keeps the number of the pass, the count of the choices visited and
the symbols left alone, also when it is reset. Every pass overwrites them before it looks at a node,
so an evaluation depends on the states of choices alone, and after a reset on nothing before it. -/
namespace TextGen.Script

/-- What an interpreter keeps from one call to the next. -/
structure Interpreter where
  choices : Choices := []
  number : Nat := 0
  visited : Nat := 0
  pending : List String := []

def Interpreter.reset (i : Interpreter) : Interpreter := { i with choices := [] }

def Interpreter.start (i : Interpreter) (call : Call) : Pass where
  number := i.number
  visited := i.visited
  pending := i.pending
  state := call.state i.choices

namespace Pass

/-- What the interpreter keeps of a pass. -/
def kept (p : Pass) : Interpreter := ⟨p.state.choices, p.number, p.visited, p.pending⟩

def renumber (p : Pass) (number : Nat) : Pass := { p with number, visited := 0, pending := [] }

def withState (p : Pass) (s : State) : Pass := { p with state := s }

end Pass

/- Calls of an interpreter. -/

def evaluatePassOn (script : Script) (number : Nat) (text : String) (p : Pass) :
    Drawn Pass (Except ParseError (String × Bool)) :=
  match Tree.ofText? text with
  | .error e => (.ok (.error e), p)
  | .ok tree =>
    (visitTree script.settings tree (p.renumber number)).andThen fun output p =>
      (.ok (.ok (Text.trimmed output, isUnfinished (Text.trimmed output))), p)

/-- The passes that are left, by an interpreter that has passes behind it. -/
def passesOn (script : Script) : Nat → Nat → String → Pass → Drawn Pass (Except ParseError String)
  | 0, number, text, p =>
    (.ok (.ok text), p.withState (script.warn ("stopped after " ++ toString number
      ++ " passes with unresolved text '" ++ text ++ "'") p.state))
  | left + 1, number, text, p =>
    (evaluatePassOn script number text p).andThen fun outcome p =>
      match outcome with
      | .error e =>
        if number = 0 then (.ok (.error e), p)
        else (.ok (.ok text), p.withState (script.warn ("pass " ++ toString number
          ++ " left unparseable text '" ++ text ++ "': " ++ e.message) p.state))
      | .ok (output, unfinished) =>
        let p := p.withState
          (script.tell ("pass " ++ toString number ++ ": '" ++ output ++ "'") p.state)
        if unfinished ∧ output ≠ text then passesOn script left (number + 1) output p
        else (.ok (.ok output), p)

def evaluateOn (script : Script) (text : String) (p : Pass) :
    Drawn Pass (Except ParseError String) :=
  passesOn script script.options.maxPasses 0 text p

/-- What can be asked of an interpreter. -/
inductive Use where
  | evaluate (call : Call)
  | evaluatePass (call : Call)
  | reset

/-- What an interpreter keeps after a call, whether the call ends with a text, with an error or where
a draw fails. -/
def Interpreter.use (script : Script) (i : Interpreter) : Use → Interpreter
  | .evaluate call => (evaluateOn script call.text (i.start call)).2.kept
  | .evaluatePass call => (evaluatePassOn script 0 call.text (i.start call)).2.kept
  | .reset => i.reset

def Interpreter.after (script : Script) (history : List Use) : Interpreter :=
  history.foldl (Interpreter.use script) {}

/- What is left over makes no difference. -/

/-- A result and a state, without what the interpreter has left over. -/
def forget {α : Type} (r : Drawn Pass α) : Drawn State α := (r.1, r.2.state)

variable (script : Script)

theorem forget_evaluatePassOn (number : Nat) (text : String) (p : Pass) :
    forget (evaluatePassOn script number text p) = script.evaluatePass number text p.state := by
  unfold evaluatePassOn Script.evaluatePass runPass
  cases Tree.ofText? text with
  | error e => rfl
  | ok tree =>
    dsimp only [Pass.renumber]
    generalize visitTree script.settings tree _ = result
    obtain ⟨_ | output, q⟩ := result
    · rfl
    · rfl

theorem forget_passesOn (left number : Nat) (text : String) (p : Pass) :
    forget (passesOn script left number text p) = script.passes left number text p.state := by
  induction left generalizing number text p with
  | zero => rfl
  | succ left ih =>
    have first := forget_evaluatePassOn script number text p
    unfold passesOn Script.passes
    rw [← first]
    generalize evaluatePassOn script number text p = result
    obtain ⟨_ | (e | ⟨output, unfinished⟩), q⟩ := result
    · rfl
    · simp only [forget, Drawn.andThen_ok]
      split <;> rfl
    · simp only [forget, Drawn.andThen_ok]
      split
      · exact ih (number + 1) output _
      · rfl

theorem forget_evaluateOn (text : String) (p : Pass) :
    forget (evaluateOn script text p) = script.evaluate text p.state :=
  forget_passesOn script script.options.maxPasses 0 text p

/-- After any calls, those that fail included, an interpreter that is reset evaluates
as a new one does: it gives the same result, and it leaves the same bindings and the same source.
Both do what the script does without states of choices. -/
theorem reset_is_new (history : List Use) (call : Call) :
    let i := Interpreter.after script history
    let again := evaluateOn script call.text (i.reset.start call)
    let fresh := evaluateOn script call.text (({} : Interpreter).start call)
    again.1 = fresh.1 ∧ again.2.context = fresh.2.context ∧
      again.2.state.run.source = fresh.2.state.run.source ∧
      (again.1, again.2.state) = script.evaluate call.text (call.state i.choices).reset ∧
      (fresh.1, fresh.2.state) = script.evaluate call.text (call.state []) := by
  intro i again fresh
  have first : forget again = script.evaluate call.text (call.state i.choices).reset :=
    forget_evaluateOn script call.text (i.reset.start call)
  have second : forget fresh = script.evaluate call.text (call.state []) :=
    forget_evaluateOn script call.text (({} : Interpreter).start call)
  have forgotten : (call.state i.choices).reset = call.state [] := rfl
  rw [forgotten, ← second] at first
  obtain ⟨result, state⟩ := Prod.ext_iff.mp first
  rw [forgotten, ← second]
  exact ⟨result, congrArg State.context state, congrArg (fun s => s.run.source) state, first, rfl⟩

/-- A reset leaves more behind than a new interpreter has. -/
example :
    let call : Call := ⟨"(p | q).seq ($a = $b)", [], ⟨⟨[], 0⟩, []⟩⟩
    let i := (Interpreter.after {} [.evaluate call, .evaluatePass call]).reset
    (i.choices.length, i.number, i.visited, i.pending) = (0, 0, 1, ["a"]) := by
  decide +kernel

end TextGen.Script
