import Mathlib
import TextGen.Grammar.Json

/-! Histories of a grammar.
A grammar is changed by calls, each of which may fail. A call that adds rules accepts some of them,
in order, before it ends or meets its error. What it accepts does not depend on the grammar. -/
namespace TextGen.Grammar

open TextGen.Json (Value)

inductive Addition where
  | rule (name text : String) (defaultWeight : Float)
  | alternatives (name : String) (texts : List String) (defaultWeight : Float)
  | json (text : String)

inductive Call where
  | add (addition : Addition)
  | remove (name : String)
  | clear

def Addition.run (g : Grammar) : Addition → Outcome
  | rule name text defaultWeight => g.addRule name text defaultWeight
  | alternatives name texts defaultWeight => g.addAlternatives name texts defaultWeight
  | json text => g.addJson text

def Call.run (g : Grammar) : Call → Outcome
  | add addition => addition.run g
  | remove name => (g.remove name, none)
  | clear => (g.clear, none)

/-- The grammar after some calls, whether they failed or not. -/
def after (calls : List Call) : Grammar := calls.foldl (fun g call => (call.run g).1) empty

theorem after_concat (calls : List Call) (call : Call) :
    after (calls ++ [call]) = (call.run (after calls)).1 := by
  simp [after]

abbrev Entry := String × List Production

def insertAll (g : Grammar) (entries : List Entry) : Grammar :=
  entries.foldl (fun g entry => g.insert entry.1 entry.2) g

def single (name : String) : Except Error (List Production) → List Entry × Option Error
  | .ok new => ([(name, new)], none)
  | .error e => ([], some e)

def memberProductions? (name : String) : Value → Except Error (List Production)
  | .text rule => productions? name (alternatives rule) 1.0
  | .array items => do productions? name (← texts name items) 1.0
  | other => .error (.invalidRuleSet ("rule '" ++ name ++ "' is " ++ other.kind))

def acceptedMembers : List (String × Value) → List Entry × Option Error
  | [] => ([], none)
  | (name, rule) :: rest =>
    match memberProductions? name rule with
    | .ok new =>
      let (later, error) := acceptedMembers rest
      ((name, new) :: later, error)
    | .error e => ([], some e)

def Addition.accepted : Addition → List Entry × Option Error
  | rule name text defaultWeight =>
    single name (productions? name (Grammar.alternatives text) defaultWeight)
  | alternatives name texts defaultWeight => single name (productions? name texts defaultWeight)
  | json text =>
    match Json.ofText? text with
    | none => ([], some .invalidJson)
    | some (.object members) => acceptedMembers (Json.merged members)
    | some other => ([], some (.invalidRuleSet ("found " ++ other.kind)))

variable (g : Grammar)

theorem addAlternatives_eq (name : String) (texts : List String) (w : Float) :
    g.addAlternatives name texts w =
      (g.insertAll (single name (productions? name texts w)).1,
        (single name (productions? name texts w)).2) := by
  unfold addAlternatives
  cases productions? name texts w with
  | ok new => rfl
  | error e => rfl

theorem addMember_eq (name : String) (rule : Value) :
    g.addMember name rule =
      (g.insertAll (single name (memberProductions? name rule)).1,
        (single name (memberProductions? name rule)).2) := by
  cases rule with
  | text rule => exact g.addAlternatives_eq name (alternatives rule) 1.0
  | array items =>
    simp only [addMember, memberProductions?]
    cases texts name items with
    | ok alternatives => exact g.addAlternatives_eq name alternatives 1.0
    | error e => rfl
  | null => rfl
  | boolean _ => rfl
  | number _ => rfl
  | object _ => rfl

theorem addMembers_eq (members : List (String × Value)) :
    g.addMembers members =
      (g.insertAll (acceptedMembers members).1, (acceptedMembers members).2) := by
  induction members generalizing g with
  | nil => rfl
  | cons member rest ih =>
    obtain ⟨name, rule⟩ := member
    rw [addMembers, addMember_eq, acceptedMembers]
    cases memberProductions? name rule with
    | ok new => exact ih (g.insert name new)
    | error e => rfl

theorem Addition.run_eq (a : Addition) : a.run g = (g.insertAll a.accepted.1, a.accepted.2) := by
  cases a with
  | rule name text w => exact g.addAlternatives_eq name (Grammar.alternatives text) w
  | alternatives name texts w => exact g.addAlternatives_eq name texts w
  | json text =>
    simp only [Addition.run, Addition.accepted, addJson]
    cases Json.ofText? text with
    | none => rfl
    | some value =>
      cases value with
      | object members => exact g.addMembers_eq (Json.merged members)
      | null => rfl
      | boolean _ => rfl
      | number _ => rfl
      | text _ => rfl
      | array _ => rfl

/- The weights of what is accepted. -/

theorem weighted?_eq_none {text : List Char} (plain : '[' ∉ text) (before : List Char) :
    weighted? before text = none := by
  induction text generalizing before with
  | nil => rfl
  | cons c text ih =>
    simp only [List.mem_cons, not_or] at plain
    unfold weighted?
    rw [ih plain.2]
    simp [Ne.symm plain.1]

theorem Production.ofText_weight {w : Float} (checked : isWeight w = true) {text : String}
    {p : Production} (parsed : Production.ofText w text = .ok p) : isWeight p.weight = true := by
  unfold Production.ofText at parsed
  split at parsed
  · cases parsed
    exact checked
  · split at parsed
    · split at parsed
      · next own =>
        cases parsed
        exact own
      · cases parsed
    · cases parsed

theorem exists_of_mapM_ok {α β ε : Type} {f : α → Except ε β} {items : List α} {results : List β}
    (read : items.mapM f = .ok results) : ∀ y ∈ results, ∃ x ∈ items, f x = .ok y := by
  induction items generalizing results with
  | nil =>
    cases read
    simp
  | cons x items ih =>
    simp only [List.mapM_cons] at read
    cases first : f x with
    | error e => simp [first, bind, Except.bind] at read
    | ok y =>
      cases others : items.mapM f with
      | error e => simp [first, others, bind, Except.bind] at read
      | ok ys =>
        have parts : y :: ys = results := by
          simpa [first, others, bind, Except.bind, pure, Except.pure] using read
        subst parts
        intro z mem
        rcases List.mem_cons.mp mem with rfl | mem
        · exact ⟨x, List.mem_cons_self, first⟩
        · obtain ⟨source, inside, same⟩ := ih others z mem
          exact ⟨source, List.mem_cons_of_mem x inside, same⟩

theorem productions?_weight {name : String} {texts : List String} {w : Float}
    {new : List Production} (parsed : productions? name texts w = .ok new) :
    ∀ p ∈ new, isWeight p.weight = true := by
  unfold productions? at parsed
  split at parsed
  · next checked =>
    intro p mem
    obtain ⟨text, _, own⟩ := exists_of_mapM_ok parsed p mem
    exact Production.ofText_weight checked own
  · cases parsed

theorem single_weight {name : String} {parsed : Except Error (List Production)}
    (checked : ∀ new, parsed = .ok new → ∀ p ∈ new, isWeight p.weight = true) :
    ∀ entry ∈ (single name parsed).1, ∀ p ∈ entry.2, isWeight p.weight = true := by
  cases parsed with
  | error e => simp [single]
  | ok new => simpa [single] using checked new rfl

theorem memberProductions?_weight {name : String} {rule : Value} {new : List Production}
    (parsed : memberProductions? name rule = .ok new) : ∀ p ∈ new, isWeight p.weight = true := by
  cases rule with
  | text rule => exact productions?_weight parsed
  | array items =>
    simp only [memberProductions?] at parsed
    cases read : texts name items with
    | error e => simp [read, bind, Except.bind] at parsed
    | ok alternatives =>
      rw [read] at parsed
      change productions? name alternatives 1.0 = .ok new at parsed
      exact productions?_weight parsed
  | null => cases parsed
  | boolean _ => cases parsed
  | number _ => cases parsed
  | object _ => cases parsed

theorem acceptedMembers_weight (members : List (String × Value)) :
    ∀ entry ∈ (acceptedMembers members).1, ∀ p ∈ entry.2, isWeight p.weight = true := by
  induction members with
  | nil => simp [acceptedMembers]
  | cons member rest ih =>
    obtain ⟨name, rule⟩ := member
    unfold acceptedMembers
    cases parsed : memberProductions? name rule with
    | error e => simp
    | ok new => simpa using ⟨memberProductions?_weight parsed, by simpa using ih⟩

theorem Addition.accepted_weight (a : Addition) :
    ∀ entry ∈ a.accepted.1, ∀ p ∈ entry.2, isWeight p.weight = true := by
  cases a with
  | rule name text w => exact single_weight fun new parsed => productions?_weight parsed
  | alternatives name texts w => exact single_weight fun new parsed => productions?_weight parsed
  | json text =>
    simp only [Addition.accepted]
    split
    · simp
    · exact acceptedMembers_weight _
    · simp

end TextGen.Grammar
