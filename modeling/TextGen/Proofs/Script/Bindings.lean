import Mathlib
import TextGen.Proofs.Script.Literal
import TextGen.Proofs.Text.Trimming

/-! Bindings from pass to pass.
What a symbol is bound to says whether a pass resolves it or writes it out for the next one. Nothing
but an assignment changes a binding, and a chain asks the context for functions only. -/
namespace TextGen.Script

def Value.function? : Value → Option Function
  | .function f => some f
  | _ => none

namespace Context

variable {context : Context} {name other : String} {v : Value}

@[simp] theorem get?_bind_self : (context.bind name v).get? name = some v := by
  induction context with
  | nil => simp [bind, get?]
  | cons entry context ih =>
    obtain ⟨n, u⟩ := entry
    by_cases same : n = name
    · simp [bind, get?, same]
    · have apart : (name == n) = false := by simpa using Ne.symm same
      simpa [bind, get?, same, List.lookup_cons, apart] using ih

theorem get?_bind_of_ne (apart : other ≠ name) :
    (context.bind name v).get? other = context.get? other := by
  induction context with
  | nil => simp [bind, get?, apart]
  | cons entry context ih =>
    obtain ⟨n, u⟩ := entry
    by_cases same : n = name
    · have different : (other == name) = false := by simpa using apart
      simp [bind, get?, same, List.lookup_cons, different]
    · simp only [get?] at ih
      simp only [bind, get?, if_neg same, List.lookup_cons, ih]

/-- Each name is bound to the same function, or to none, in both. -/
def SameFunctions (context later : Context) : Prop :=
  ∀ name, (context.get? name).bind Value.function? = (later.get? name).bind Value.function?

end Context

/- Chains. -/

theorem applySegment?_eq (table : Transforms) (context : Context) (s : Segment) (v : Value) :
    applySegment? table context s v =
      (property? s v).or (match (context.get? s.name).bind Value.function? with
        | some f => some (.text (f.apply v.display))
        | none => match table.get? s.name with
          | some f => some (.text (f v.display))
          | none => (v.text?.bind (native? s)).map .text) := by
  unfold applySegment?
  cases property? s v with
  | some p => rfl
  | none =>
    rcases context.get? s.name with _ | (_ | _ | _)
    all_goals rfl

theorem applySegments_of_sameFunctions {context later : Context}
    (same : context.SameFunctions later) (table : Transforms) (c : Chain) (v : Value) :
    applySegments table context c v = applySegments table later c v := by
  induction c generalizing v with
  | nil => rfl
  | cons s c ih =>
    simp only [applySegments, applySegment?_eq, same s.name]
    split
    · exact ih _
    · rfl

namespace Pass

variable (p : Pass) (settings : Settings) (c : Chain) (v : Value)

theorem transform_nil : p.transform settings v [] = (v.display, p) := rfl

theorem context_transform : (p.transform settings v c).2.context = p.context := by
  unfold transform
  split
  · rfl
  · simp only
    split <;> rfl

@[simp] theorem context_tell (text : String) : (p.tell settings text).context = p.context := by
  unfold tell
  split <;> rfl

@[simp] theorem pending_tell (text : String) : (p.tell settings text).pending = p.pending := by
  unfold tell
  split <;> rfl

theorem transform_of_sameFunctions {p q : Pass} (same : p.context.SameFunctions q.context) :
    (p.transform settings v c).1 = (q.transform settings v c).1 := by
  simp only [transform, applySegments_of_sameFunctions same]
  split <;> rfl

@[simp] theorem choices_tell (text : String) :
    (p.tell settings text).state.choices = p.state.choices := by
  unfold tell
  split <;> rfl

@[simp] theorem source_tell (text : String) :
    (p.tell settings text).state.run.source = p.state.run.source := by
  unfold tell
  split <;> rfl

@[simp] theorem context_bind (name : String) :
    (p.bind name v).context = p.context.bind name v := rfl

@[simp] theorem pending_bind (name : String) : (p.bind name v).pending = p.pending := rfl

theorem assign_of_unfinished {name value : String} (unfinished : isUnfinished value = true) :
    p.assign settings name value false c =
      (deferred name value c, (p.bind name (.text value)).leaveAlone name) := by
  simp [assign, unfinished]

theorem assign_of_finished {name value : String} (finished : isUnfinished value = false) :
    p.assign settings name value false c =
      (p.bind name (.text value)).transform settings (.text value) c := by
  simp [assign, finished]

theorem symbol_of_pending {name : String} (waits : name ∈ p.pending) :
    p.symbol settings name c = (unresolved name c, p) := by
  simp [symbol, waits]

section

variable {p} {name text : String} (free : name ∉ p.pending)
  (bound : p.context.get? name = some (.text text))
include free bound

theorem symbol_of_unfinished (unfinished : isUnfinished text = true) :
    p.symbol settings name c = (deferred name text c, p.leaveAlone name) := by
  have waits : (Value.text text).text?.filter isUnfinished = some text := by
    simp [Value.text?, Option.filter, unfinished]
  simp [symbol, free, bound, waits]

theorem symbol_of_finished (finished : isUnfinished text = false) :
    p.symbol settings name c = ((p.transform settings (.text text) c).1,
      (p.transform settings (.text text) c).2.tell settings
        ("$" ++ name ++ " -> '" ++ (p.transform settings (.text text) c).1 ++ "'")) := by
  have resolved : (Value.text text).text?.filter isUnfinished = none := by
    simp [Value.text?, Option.filter, finished]
  simp [symbol, free, bound, resolved]

end

end Pass

/- Texts that a pass leaves. -/

theorem head?_dropWhile_append {test : Char → Bool} {sign : Char} {text : List Char}
    (head : (text.dropWhile test).head? = some sign) (rest : List Char) :
    ((text ++ rest).dropWhile test).head? = some sign := by
  rw [List.dropWhile_append]
  cases left : text.dropWhile test with
  | nil => simp [left] at head
  | cons c text => simpa [left] using head

theorem opensConstruct_append {text : List Char} (rest : List Char)
    (opens : opensConstruct text = true) : opensConstruct (text ++ rest) = true := by
  unfold opensConstruct at opens
  split at opens
  · exact opens
  · rename_i next u
    simp only [Bool.and_eq_true, beq_iff_eq] at opens
    simp only [List.cons_append, opensConstruct, Bool.and_eq_true, beq_iff_eq]
    refine ⟨opens.1, ?_⟩
    have name := opens.2
    rw [List.dropWhile_append]
    split
    · rename_i ended
      simp [List.isEmpty_iff.mp ended] at name
    · exact head?_dropWhile_append name rest
  · exact opens
  · rename_i u
    simp only [beq_iff_eq] at opens
    simpa only [List.cons_append, opensConstruct, beq_iff_eq] using
      head?_dropWhile_append opens rest
  · cases opens

theorem holdsConstruct_append {text : List Char} (rest : List Char)
    (holds : holdsConstruct text = true) : holdsConstruct (text ++ rest) = true := by
  induction text with
  | nil => cases holds
  | cons c text ih =>
    simp only [holdsConstruct, Bool.or_eq_true, List.cons_append] at holds ⊢
    exact holds.imp (opensConstruct_append rest) ih

theorem isUnfinished_trimmed {text : String} (finished : isUnfinished text = false) :
    isUnfinished (Text.trimmed text) = false := by
  obtain ⟨front, back, whole, -, -⟩ := Text.exists_blanks text.toList
  rw [isUnfinished, whole, List.append_assoc] at finished
  have inner := holdsConstruct_of_append finished
  rw [isUnfinished, Text.trimmed, String.toList_ofList]
  by_contra holds
  rw [holdsConstruct_append back (by simpa using holds)] at inner
  cases inner

/- Passes that follow one another. -/

section

variable (script : Script) (told : String) (s : State)

@[simp] theorem context_tell : (script.tell told s).context = s.context := by
  unfold Script.tell
  split <;> rfl

@[simp] theorem source_tell : (script.tell told s).run.source = s.run.source := by
  unfold Script.tell
  split <;> rfl

end

section

variable {script : Script} {number left : Nat} {text output : String} {t : Tree} {s s' : State}
  (read : Tree.ofText? text = .ok t)
  (pass : runPass script.settings number t s = (.ok output, s'))
include read pass

theorem passes_of_unfinished (unfinished : isUnfinished output = true) (changed : output ≠ text) :
    script.passes (left + 1) number text s = script.passes left (number + 1) output
      (script.tell ("pass " ++ toString number ++ ": '" ++ output ++ "'") s') := by
  simp only [Script.passes, Script.evaluatePass, read, pass, Drawn.andThen_ok, unfinished, changed,
    ne_eq, not_false_eq_true, and_self, if_true]

theorem passes_of_finished (finished : isUnfinished output = false) :
    script.passes (left + 1) number text s = (.ok (.ok output),
      script.tell ("pass " ++ toString number ++ ": '" ++ output ++ "'") s') := by
  simp [Script.passes, Script.evaluatePass, read, pass, finished]

end

end TextGen.Script
