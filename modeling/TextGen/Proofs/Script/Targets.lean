import Mathlib
import TextGen.Proofs.Script.Bindings
import TextGen.Proofs.Script.Visits

/-! What a pass can change.
The targets of a tree are the names to which its assignments bind something. A symbol that is not
resolved is written out as an assignment, but only a later pass makes it. So a pass binds texts to
the targets of its tree and to nothing else, and it draws only where a choice is written. -/
namespace TextGen.Script

/- Targets. -/

mutual

/-- The names that a node binds, those in its alternatives, its value or its body included. A source
is bound under the name of its symbol after an ampersand. -/
def Node.targets : Node → List String
  | .choice alternatives _ => Alternative.targets alternatives
  | .assign name value _ _ _ => name :: Tree.targets value
  | .dynamic name _ => [Pass.sourceName name]
  | .guarded _ body => Tree.targets body
  | _ => []

def Tree.targets : Tree → List String
  | [] => []
  | n :: t => n.targets ++ Tree.targets t

def Alternative.targets : List Alternative → List String
  | [] => []
  | .mk tree _ :: rest => Tree.targets tree ++ Alternative.targets rest

end

/-- The second context is the first one but for texts that are bound to some of the names. -/
def Context.BindsTexts (names : List String) (before after : Context) : Prop :=
  ∀ name, after.get? name = before.get? name ∨
    name ∈ names ∧ ∃ s, after.get? name = some (.text s)

namespace Context.BindsTexts

variable {names more : List String} {before mid after : Context}

theorem refl (names : List String) (context : Context) : context.BindsTexts names context :=
  fun _ => .inl rfl

theorem mono (h : before.BindsTexts names after) (sub : names ⊆ more) :
    before.BindsTexts more after :=
  fun name => (h name).imp_right fun bound => ⟨sub bound.1, bound.2⟩

theorem trans (h : before.BindsTexts names mid) (later : mid.BindsTexts more after) :
    before.BindsTexts (names ++ more) after := by
  intro name
  rcases later name with same | ⟨target, text⟩
  · rw [same]
    exact (h name).imp_right fun bound => ⟨List.mem_append_left _ bound.1, bound.2⟩
  · exact .inr ⟨List.mem_append_right _ target, text⟩

theorem bind (name text : String) (context : Context) :
    context.BindsTexts [name] (context.bind name (.text text)) := by
  intro other
  by_cases same : other = name
  · subst same
    exact .inr ⟨List.mem_singleton_self _, text, get?_bind_self⟩
  · exact .inl (get?_bind_of_ne same)

theorem kept (h : before.BindsTexts names after) {name : String} (other : name ∉ names) :
    after.get? name = before.get? name :=
  (h name).resolve_right fun bound => other bound.1

theorem isSome (h : before.BindsTexts names after) {name : String}
    (bound : (before.get? name).isSome) : (after.get? name).isSome := by
  rcases h name with same | ⟨_, text, now⟩
  · rwa [same]
  · rw [now]
    rfl

end Context.BindsTexts

/- What the parts of a pass that bind nothing keep. -/

theorem Operator.source_holds (o : Operator) (left right : String) (r : Run) :
    (o.holds left right r).2.source = r.source := by
  unfold holds
  dsimp only
  split <;> rfl

namespace Pass

def store (p : Pass) : Context × Source := (p.context, p.state.run.source)

variable (p : Pass) (settings : Settings) (name text : String) (c : Chain)

theorem store_tell : (p.tell settings text).store = p.store :=
  Prod.ext (p.context_tell settings text) (p.source_tell settings text)

theorem store_transform (v : Value) : (p.transform settings v c).2.store = p.store := by
  unfold transform
  split
  · rfl
  · dsimp only
    split <;> rfl

theorem store_symbol : (p.symbol settings name c).2.store = p.store := by
  unfold symbol
  split
  · rfl
  · split
    · split <;> rfl
    · split
      · rfl
      · exact (store_tell _ settings _).trans (p.store_transform settings c _)

theorem store_finishChoice (id : Nat) : (p.finishChoice settings id text c).2.store = p.store := by
  unfold finishChoice
  dsimp only
  split
  · exact p.store_tell settings _
  · split
    · exact p.store_tell settings _
    · exact (store_transform _ settings _ _).trans (p.store_tell settings _)

theorem store_meets (conditions : List Condition) : (p.meets conditions).2.store = p.store := by
  induction conditions generalizing p with
  | nil => rfl
  | cons condition rest ih =>
    unfold meets
    split
    · rfl
    · rename_i v _
      have same : (p.withRun (condition.operator.holds v.display condition.value p.state.run).2).store
          = p.store := Prod.ext rfl (Operator.source_holds ..)
      dsimp only
      split
      · exact (ih _).trans same
      · exact same

theorem context_assign (isStatement : Bool) :
    (p.assign settings name text isStatement c).2.context = p.context.bind name (.text text) := by
  unfold assign
  split
  · simp
  · dsimp only
    split
    · rfl
    · exact context_transform ..

theorem source_assign (isStatement : Bool) :
    (p.assign settings name text isStatement c).2.state.run.source = p.state.run.source := by
  unfold assign
  split
  · exact p.source_tell settings _
  · dsimp only
    split
    · rfl
    · exact congrArg Prod.snd (store_transform (p.bind name (.text text)) settings c _)

theorem context_choose (id : Nat) (weights : List Float) (policy : Policy) :
    (p.choose id weights policy).2.context = p.context := by
  unfold choose
  dsimp only
  split
  · rfl
  · split <;> rfl

end Pass

/- Bindings. -/

variable (settings : Settings)

mutual

theorem bindsTexts_visitTree : ∀ (t : Tree) (p : Pass),
    p.context.BindsTexts (Tree.targets t) (visitTree settings t p).2.context
  | [], _ => .refl _ _
  | n :: rest, p => by
    have first := bindsTexts_visitNode n p
    have later := bindsTexts_visitTree rest (visitNode settings n p).2
    rw [visitTree]
    refine Drawn.andThen_snd (P := fun q : Pass => p.context.BindsTexts _ q.context)
      (first.mono (List.subset_append_left _ _)) fun text _ => ?_
    exact Drawn.andThen_snd (P := fun q : Pass => p.context.BindsTexts _ q.context)
      (first.trans later) fun _ _ => first.trans later

theorem bindsTexts_visitNode : ∀ (n : Node) (p : Pass),
    p.context.BindsTexts n.targets (visitNode settings n p).2.context
  | .text _, _ => .refl _ _
  | .newline, _ => .refl _ _
  | .symbol name c, p => by
    have same := congrArg Prod.fst (p.store_symbol settings name c)
    change (p.symbol settings name c).2.context = p.context at same
    rw [visitNode, Drawn.done, same]
    exact .refl _ _
  | .choice alternatives c, p => by
    have inside := bindsTexts_visitNth alternatives
    have made := Pass.context_choose { p with visited := p.visited + 1 } (p.visited + 1)
      (alternatives.map Alternative.weight) (Policy.ofChain c)
    simp only [visitNode]
    generalize Pass.choose _ _ _ _ = result at made ⊢
    obtain ⟨pick, q⟩ := result
    change q.context = p.context at made
    rcases pick with _ | (_ | i)
    · exact made ▸ .refl _ _
    · exact made ▸ .refl _ _
    · have chosen := inside i q
      rw [made] at chosen
      rw [Drawn.andThen_ok]
      refine Drawn.andThen_snd (P := fun q : Pass => p.context.BindsTexts _ q.context) chosen ?_
      rintro (_ | text) _
      · exact chosen
      · have same := congrArg Prod.fst
          ((visitNth settings alternatives i q).2.store_finishChoice settings text c (p.visited + 1))
        change (Pass.finishChoice _ settings (p.visited + 1) text c).2.context = _ at same
        simp only [Drawn.done, same]
        exact chosen
  | .assign name value column inParens c, p => by
    have inside := bindsTexts_visitTree value p
    rw [visitNode]
    refine Drawn.andThen_snd (P := fun q : Pass => p.context.BindsTexts _ q.context)
      (inside.mono (List.subset_cons_self _ _)) fun text _ => ?_
    rw [Drawn.done, Pass.context_assign]
    exact (inside.trans (.bind name (Text.trimmed text) _)).mono (by simp [Node.targets])
  | .dynamic name source, p => by
    simp only [visitNode, Pass.context_bind, Pass.context_tell]
    exact .bind _ source _
  | .guarded conditions body, p => by
    have inside := bindsTexts_visitTree body
    have met := congrArg Prod.fst (p.store_meets conditions)
    simp only [visitNode]
    generalize p.meets conditions = result at met ⊢
    obtain ⟨held, q⟩ := result
    change q.context = p.context at met
    cases held with
    | true => exact met ▸ inside q
    | false => exact met ▸ .refl _ _

theorem bindsTexts_visitNth : ∀ (alternatives : List Alternative) (i : Nat) (p : Pass),
    p.context.BindsTexts (Alternative.targets alternatives)
      (visitNth settings alternatives i p).2.context
  | [], _, _ => .refl _ _
  | .mk tree _ :: rest, 0, p => by
    have inside := (bindsTexts_visitTree tree p).mono
      (List.subset_append_left _ (Alternative.targets rest))
    exact Drawn.andThen_snd (P := fun q : Pass => p.context.BindsTexts _ q.context)
      inside fun _ _ => inside
  | .mk _ _ :: rest, i + 1, p =>
    (bindsTexts_visitNth rest i p).mono (List.subset_append_right _ _)

end

/- Draws. -/

mutual

theorem visitTree_of_no_sites : ∀ (t : Tree) (p : Pass), Tree.sites t = [] →
    (∃ text, (visitTree settings t p).1 = .ok text) ∧
      (visitTree settings t p).2.state.run.source = p.state.run.source
  | [], _, _ => ⟨⟨"", rfl⟩, rfl⟩
  | n :: rest, p, free => by
    obtain ⟨here, later⟩ := List.append_eq_nil_iff.mp free
    obtain ⟨⟨text, shown⟩, same⟩ := visitNode_of_no_sites n p here
    have next := visitTree_of_no_sites rest (visitNode settings n p).2 later
    rw [visitTree]
    generalize visitNode settings n p = result at shown same next ⊢
    obtain ⟨_, q⟩ := result
    cases shown
    obtain ⟨⟨more, shown⟩, same'⟩ := next
    rw [Drawn.andThen_ok]
    generalize visitTree settings rest q = result at shown same' ⊢
    obtain ⟨_, q'⟩ := result
    cases shown
    exact ⟨⟨_, rfl⟩, same'.trans same⟩

theorem visitNode_of_no_sites : ∀ (n : Node) (p : Pass), n.sites = [] →
    (∃ text, (visitNode settings n p).1 = .ok text) ∧
      (visitNode settings n p).2.state.run.source = p.state.run.source
  | .text s, _, _ => ⟨⟨s, rfl⟩, rfl⟩
  | .newline, _, _ => ⟨⟨" ", rfl⟩, rfl⟩
  | .symbol name c, p, _ => ⟨⟨_, rfl⟩, congrArg Prod.snd (p.store_symbol settings name c)⟩
  | .choice _ _, _, free => nomatch free
  | .assign name value column inParens c, p, free => by
    obtain ⟨⟨text, shown⟩, same⟩ := visitTree_of_no_sites value p free
    rw [visitNode]
    generalize visitTree settings value p = result at shown same ⊢
    obtain ⟨_, q⟩ := result
    cases shown
    exact ⟨⟨_, rfl⟩, (q.source_assign settings name _ c _).trans same⟩
  | .dynamic name source, p, _ => ⟨⟨"", rfl⟩, p.source_tell settings _⟩
  | .guarded conditions body, p, free => by
    have inside := fun q => visitTree_of_no_sites body q free
    have met := congrArg Prod.snd (p.store_meets conditions)
    simp only [visitNode]
    generalize p.meets conditions = result at met ⊢
    obtain ⟨held, q⟩ := result
    cases held with
    | true => exact ⟨(inside q).1, (inside q).2.trans met⟩
    | false => exact ⟨⟨"", rfl⟩, met⟩

end

theorem Runs.eq_of_nil {choices after : Choices} (h : Runs choices [] after) : after = choices := by
  cases h
  rfl

theorem treeVisits_eq_nil {t : Tree} (free : Tree.sites t = []) (p : Pass) :
    treeVisits settings 0 t p = [] := by
  have inside := isOf_of_mem_treeVisits settings 0 t p
  rw [free] at inside
  exact eq_nil_of_isOf inside

/-- A pass changes no binding but those of the targets of its tree, to which it binds texts, and it
removes none. Without a choice in the tree it gives a text, draws nothing, and the states of choices
stay as they are. -/
theorem runPass_binds_targets (number : Nat) (t : Tree) (s : State) :
    (∀ name ∉ Tree.targets t,
      (runPass settings number t s).2.context.get? name = s.context.get? name) ∧
    (∀ name, (s.context.get? name).isSome →
      ((runPass settings number t s).2.context.get? name).isSome) ∧
    (∀ name, (runPass settings number t s).2.context.get? name ≠ s.context.get? name →
      ∃ text, (runPass settings number t s).2.context.get? name = some (.text text)) ∧
    (Tree.sites t = [] → (∃ text, (runPass settings number t s).1 = .ok text) ∧
      (runPass settings number t s).2.run.source = s.run.source ∧
      (runPass settings number t s).2.choices = s.choices) := by
  have binds := bindsTexts_visitTree settings t { number, state := s }
  refine ⟨fun name => binds.kept, fun name => binds.isSome, fun name changed => ?_, fun free => ?_⟩
  · exact ((binds name).resolve_left changed).2
  · have visits := runs_runPass settings number t s
    rw [treeVisits_eq_nil settings free] at visits
    obtain ⟨⟨text, shown⟩, still⟩ := visitTree_of_no_sites settings t { number, state := s } free
    refine ⟨⟨Text.trimmed text, ?_⟩, still, visits.eq_of_nil⟩
    simp only [runPass, shown, Except.map]

theorem runPass_binds_targets_of_guarded :
    let t : Tree := [.assign "x" [.symbol "w" [⟨"f", true⟩]] 0 false [],
      .guarded [⟨"x", .notEqual, "a"⟩] [.assign "y" [.text "b"] 3 false []], .dynamic "z" "c"]
    let s : State := {
      context := [("f", .function ⟨0, id⟩), ("w", .text "$x"), ("x", .text "a")]
      run := ⟨⟨[], 0⟩, []⟩ }
    let s' := (runPass {} 2 t s).2
    ("w" ∉ Tree.targets t ∧ s'.context.get? "w" = some (.text "$x")) ∧
    ("f" ∉ Tree.targets t ∧ s'.context.get? "f" = some (.function ⟨0, id⟩)) ∧
    ((s.context.get? "x").isSome ∧ (s'.context.get? "x").isSome) ∧
    (s'.context.get? "&z" ≠ s.context.get? "&z" ∧
      ∃ text, s'.context.get? "&z" = some (.text text)) ∧
    Tree.sites t = [] ∧ (∃ text, (runPass {} 2 t s).1 = .ok text) ∧
      (runPass {} 2 t s).2.run.source = s.run.source ∧
      (runPass {} 2 t s).2.choices = s.choices := by
  intro t s s'
  obtain ⟨kept, bound, texts, still⟩ := runPass_binds_targets {} 2 t s
  have apart : "w" ∉ Tree.targets t ∧ "f" ∉ Tree.targets t := by decide
  have source : s'.context.get? "&z" ≠ s.context.get? "&z" := by
    have some_ : (s'.context.get? "&z").isSome = true := by decide +kernel
    intro same
    rw [same] at some_
    cases some_
  have free : Tree.sites t = [] := rfl
  refine ⟨⟨apart.1, kept "w" apart.1⟩, ⟨apart.2, kept "f" apart.2⟩, ⟨rfl, bound "x" rfl⟩,
    ⟨source, texts "&z" source⟩, free, still free⟩

end TextGen.Script
