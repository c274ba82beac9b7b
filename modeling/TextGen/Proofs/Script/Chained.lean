import Mathlib
import TextGen.Proofs.Script.Inline

/-! Symbols that lead to other symbols.
A symbol whose value is another symbol is written out as an assignment that waits for it, one more
in each pass. The pass that finds the value at the end of the way binds all symbols on it. -/
namespace TextGen.Script

/-- Each symbol is bound to the next one, and the last one to the value. -/
def Context.Leads (context : Context) (v : String) : Identifier → List Identifier → Prop
  | a, [] => context.get? a.text = some (.text v)
  | a, b :: rest => context.get? a.text = some (.text ("$" ++ b.text)) ∧ context.Leads v b rest

def namesOn (first : Identifier) (rest : List Identifier) : List String :=
  (first :: rest).dropLast.map Identifier.text

def waiting : List Identifier → Identifier → Steps → Phrase
  | [], b, T => .one (.symbol b T)
  | a :: names, b, T => .one (.assign a (waiting names b .none) T)

/- Bindings on the way. -/

theorem Context.Leads.of_same {context later : Context} {v : String} {b : Identifier}
    {rest : List Identifier} (leads : context.Leads v b rest)
    (same : ∀ a ∈ b :: rest, later.get? a.text = context.get? a.text) : later.Leads v b rest := by
  induction rest generalizing b with
  | nil => exact (same b List.mem_cons_self).trans leads
  | cons c rest ih =>
    have here := same b List.mem_cons_self
    exact ⟨here.trans leads.1, ih leads.2 fun a mem => same a (List.mem_cons_of_mem b mem)⟩

theorem Context.Leads.exists_text {context : Context} {v : String} {b : Identifier}
    {rest : List Identifier} (leads : context.Leads v b rest) :
    ∀ a ∈ b :: rest, ∃ text, context.get? a.text = some (.text text) := by
  induction rest generalizing b with
  | nil =>
    intro a mem
    cases List.mem_singleton.mp mem
    exact ⟨v, leads⟩
  | cons c rest ih =>
    intro a mem
    rcases List.mem_cons.mp mem with rfl | mem
    · exact ⟨_, leads.1⟩
    · exact ih leads.2 a mem

/- What is written for the next pass. -/

theorem opensConstruct_symbol (a : Identifier) (rest : List Char) :
    opensConstruct ('$' :: (a.text.toList ++ rest)) = true := by
  have named := a.named
  unfold isName at named
  split at named
  · cases named
  · rename_i first more written
    simp only [Bool.and_eq_true] at named
    simp [written, opensConstruct, named.1]

theorem isUnfinished_symbol (a : Identifier) : isUnfinished ("$" ++ a.text) = true := by
  have opens := opensConstruct_symbol a []
  simp only [List.append_nil] at opens
  simp [isUnfinished, holdsConstruct, opens]

theorem isUnfinished_waiting (names : List Identifier) (b : Identifier) (T : Steps) :
    isUnfinished (String.ofList (waiting names b T).text) = true := by
  cases names with
  | nil =>
    have opens := opensConstruct_symbol b T.chain.text.toList
    simp [waiting, Phrase.text, Item.text, isUnfinished, holdsConstruct, opens]
  | cons a names =>
    simp [waiting, Phrase.text, Item.text, isUnfinished, holdsConstruct, opensConstruct]

theorem length_waiting (names : List Identifier) (b c : Identifier) (T : Steps) :
    (waiting (names ++ [b]) c T).text.length =
      (waiting names b T).text.length + c.text.toList.length + 4 := by
  induction names generalizing T with
  | nil =>
    simp [waiting, Phrase.text, Item.text, Steps.none, Chain.text]
    omega
  | cons a names ih =>
    have inner := ih .none
    simp only [waiting, Phrase.text, Item.text, List.cons_append, List.length_cons,
      List.length_append, inner]
    omega

/- One pass. The induction is on the symbols that wait, from the outer one to the inner one. -/

section

variable (settings : Settings) {b c : Identifier} {v : String} {p : Pass}

theorem visitTree_waiting_cons (a : Identifier) (names : List Identifier) (T : Steps)
    {text : String} {q : Pass}
    (inner : visitTree settings (waiting names b .none).tree p = (.ok text, q)) :
    visitTree settings (waiting (a :: names) b T).tree p =
      .done (q.assign settings a.text (Text.trimmed text) false T.chain) := by
  simp only [waiting, visitTree_one, Item.node, visitNode, inner, Drawn.andThen_ok, Bool.not_true,
    Bool.false_and]

/-- A symbol that leads to another one waits for it from now on, and so do all those before it. -/
theorem visitTree_waiting_of_symbol (names : List Identifier) (free : b.text ∉ p.pending)
    (bound : p.context.get? b.text = some (.text ("$" ++ c.text))) (T : Steps) :
    ∃ q : Pass, visitTree settings (waiting names b T).tree p =
        (.ok (String.ofList (waiting (names ++ [b]) c T).text), q) ∧
      ∀ x ∉ names.map Identifier.text, q.context.get? x = p.context.get? x := by
  induction names generalizing T with
  | nil =>
    refine ⟨p.leaveAlone b.text, ?_, fun x _ => rfl⟩
    have left := Pass.symbol_of_unfinished settings T.chain free bound (isUnfinished_symbol c)
    have written : String.ofList (Phrase.one (.symbol c .none)).text = "$" ++ c.text := by
      simp [Phrase.ofList_symbol, Steps.none, Pass.unresolved, Chain.text]
    simp only [waiting, visitTree_one, Item.node, visitNode, left, Drawn.done, List.nil_append,
      Phrase.ofList_assign, written]
  | cons a names ih =>
    obtain ⟨q, inner, kept⟩ := ih .none
    have visited := visitTree_waiting_cons settings a names T inner
    have written : String.ofList (waiting (a :: names ++ [b]) c T).text = Pass.deferred a.text
        (String.ofList (waiting (names ++ [b]) c .none).text) T.chain := Phrase.ofList_assign _ _ _
    simp only [Phrase.trimmed_text, Pass.assign_of_unfinished q settings T.chain
      (isUnfinished_waiting (names ++ [b]) c .none), Drawn.done, ← written] at visited
    refine ⟨_, visited, fun x other => ?_⟩
    obtain ⟨apart, others⟩ := not_or.mp (List.mem_cons.not.mp other)
    exact (Context.get?_bind_of_ne apart).trans (kept x others)

/-- Once the value is there, it goes to all symbols that wait, and the chain is applied to it. -/
theorem visitTree_waiting_of_finished (names : List Identifier) (free : b.text ∉ p.pending)
    (bound : p.context.get? b.text = some (.text v)) (finished : isUnfinished v = false)
    (T : Steps) :
    ∃ q r : Pass,
      visitTree settings (waiting names b T).tree p = (.ok (q.transform settings
        (.text (if names = [] then v else Text.trimmed v)) T.chain).1, r) ∧
      r.context = q.context ∧
      (∀ x ∈ names.map Identifier.text, q.context.get? x = some (.text (Text.trimmed v))) ∧
      ∀ x ∉ names.map Identifier.text, q.context.get? x = p.context.get? x := by
  induction names generalizing T with
  | nil =>
    have resolved := Pass.symbol_of_finished settings T.chain free bound finished
    simp only [waiting, visitTree_one, Item.node, visitNode, resolved, Drawn.done, if_true]
    exact ⟨p, _, rfl, by simp [Pass.context_transform], by simp, fun x _ => rfl⟩
  | cons a names ih =>
    obtain ⟨q, r, inner, context, on, off⟩ := ih .none
    have value : Text.trimmed
        (q.transform settings (.text (if names = [] then v else Text.trimmed v)) Steps.none.chain).1 =
          Text.trimmed v := by
      rw [Steps.chain_none, Pass.transform_nil]
      split
      · rfl
      · exact Text.trimmed_trimmed v
    have visited := visitTree_waiting_cons settings a names T inner
    rw [value, Pass.assign_of_finished _ settings T.chain (isUnfinished_trimmed finished)]
      at visited
    refine ⟨r.bind a.text (.text (Text.trimmed v)), _, ?_,
      Pass.context_transform _ settings T.chain (.text (Text.trimmed v)),
      fun x mem => ?_, fun x other => ?_⟩
    · rw [visited, if_neg (List.cons_ne_nil a names)]
      rfl
    · simp only [Pass.context_bind, context]
      by_cases same : x = a.text
      · rw [same, Context.get?_bind_self]
      · have later := (List.mem_cons.mp mem).resolve_left same
        exact (Context.get?_bind_of_ne same).trans (on x later)
    · simp only [Pass.context_bind, context]
      obtain ⟨apart, others⟩ := not_or.mp (List.mem_cons.not.mp other)
      exact (Context.get?_bind_of_ne apart).trans (off x others)

end

/- All passes. -/

/-- From the pass in which some symbols wait for the next one, to the last pass. The induction is on
the symbols that are still ahead. -/
theorem passes_waiting (script : Script) {v : String} (finished : isUnfinished v = false)
    (T : Steps) (rest before : List Identifier) (b : Identifier) (left number : Nat) (s : State)
    (leads : s.context.Leads v b rest)
    (distinct : ((before ++ b :: rest).map Identifier.text).Nodup) (enough : rest.length < left) :
    ∃ q : Pass,
      (∀ x ∈ (before ++ (b :: rest).dropLast).map Identifier.text,
        q.context.get? x = some (.text (Text.trimmed v))) ∧
      (∀ x ∉ (before ++ (b :: rest).dropLast).map Identifier.text,
        q.context.get? x = s.context.get? x) ∧
      ∀ r, r = (q.transform script.settings
          (.text (if before ++ rest = [] then v else Text.trimmed v)) T.chain).1 →
        isUnfinished r = false →
        ∃ s', script.passes left number (String.ofList (waiting before b T).text) s =
          (.ok (.ok (Text.trimmed r)), s') ∧ s'.context = q.context := by
  induction rest generalizing before b left number s with
  | nil =>
    -- The last pass: the innermost symbol is bound to the value itself.
    obtain ⟨more, rfl⟩ := Nat.exists_eq_add_one_of_ne_zero (Nat.ne_of_gt enough)
    obtain ⟨q, r, visited, context, on, off⟩ :=
      visitTree_waiting_of_finished script.settings (p := ⟨number, 0, [], s⟩) before
        List.not_mem_nil leads finished T
    simp only [List.dropLast_singleton, List.append_nil]
    refine ⟨q, on, off, ?_⟩
    rintro r rfl ended
    obtain ⟨s', passes, same⟩ := Phrase.passes_of_finished more visited ended
    exact ⟨s', passes, same.trans context⟩
  | cons c rest ih =>
    obtain ⟨more, rfl⟩ := Nat.exists_eq_add_one_of_ne_zero (Nat.ne_zero_of_lt enough)
    obtain ⟨q, visited, kept⟩ := visitTree_waiting_of_symbol script.settings
      (p := ⟨number, 0, [], s⟩) before List.not_mem_nil leads.1 T
    have changed : (waiting (before ++ [b]) c T).text ≠ (waiting before b T).text := by
      intro equal
      have lengths := congrArg List.length equal
      rw [length_waiting] at lengths
      omega
    obtain ⟨s₁, next, context⟩ := Phrase.passes_of_unfinished more visited
      (isUnfinished_waiting (before ++ [b]) c T) changed
    have apart : ∀ a ∈ c :: rest, a.text ∉ before.map Identifier.text := by
      rw [List.map_append] at distinct
      intro a mem earlier
      have after : a.text ∈ (b :: c :: rest).map Identifier.text :=
        List.mem_map_of_mem (List.mem_cons_of_mem b mem)
      exact (List.nodup_append.mp distinct).2.2 _ earlier _ after rfl
    -- This pass has bound only symbols that wait, and by `distinct` none of those ahead.
    have ahead : s₁.context.Leads v c rest :=
      leads.2.of_same fun a mem => (congrArg (·.get? a.text) context).trans (kept _ (apart a mem))
    rw [List.append_cons] at distinct
    obtain ⟨q', on, off, evaluated⟩ :=
      ih (before ++ [b]) c more (number + 1) s₁ ahead distinct (by simpa using enough)
    have names : before ++ [b] ++ (c :: rest).dropLast = before ++ (b :: c :: rest).dropLast := by
      simp
    rw [names] at on off
    refine ⟨q', on, fun x other => (off x other).trans ?_, ?_⟩
    · rw [context]
      refine kept x fun mem => other ?_
      simp only [List.map_append, List.mem_append, mem, true_or]
    · rw [if_neg (by simp)] at evaluated ⊢
      rw [next]
      exact evaluated

def direct (script : Script) (s : State) (text : String) (c : Chain) : String :=
  (Pass.transform ⟨0, 0, [], s⟩ script.settings (.text text) c).1

/-- A symbol that leads to a text without constructs over so many symbols that there is a pass for
each of them stands for this text, with its chain applied to it. All symbols before the last one are
then bound to the text itself. -/
theorem chained_symbol_resolves (script : Script) (s : State) (first : Identifier)
    (rest : List Identifier) (v : String) (T : Steps) (leads : s.context.Leads v first rest)
    (distinct : ((first :: rest).map Identifier.text).Nodup) (finished : isUnfinished v = false)
    (enough : rest.length < script.options.maxPasses)
    (ended : isUnfinished
      (direct script s (if rest = [] then v else Text.trimmed v) T.chain) = false) :
    ∃ s', script.evaluate ("$" ++ first.text ++ T.chain.text) s = (.ok (.ok (Text.trimmed
        (direct script s (if rest = [] then v else Text.trimmed v) T.chain))), s') ∧
      (∀ name ∈ namesOn first rest, s'.context.get? name = some (.text (Text.trimmed v))) ∧
      ∀ name ∉ namesOn first rest, s'.context.get? name = s.context.get? name := by
  obtain ⟨q, on, off, evaluated⟩ := passes_waiting script finished T rest [] first
    script.options.maxPasses 0 s leads distinct enough
  simp only [List.nil_append] at on off evaluated
  -- A step may be a function of the context. The last pass asks for it after the symbols on the way
  -- have been bound, but a symbol that had a text is still bound to a text.
  have functions : q.context.SameFunctions s.context := by
    intro name
    by_cases mem : name ∈ namesOn first rest
    · obtain ⟨a, before, rfl⟩ := List.mem_map.mp mem
      obtain ⟨text, bound⟩ := leads.exists_text a (List.mem_of_mem_dropLast before)
      rw [on _ mem, bound]
      rfl
    · rw [off _ mem]
  have same : ∀ text, (q.transform script.settings (.text text) T.chain).1 =
      direct script s text T.chain :=
    fun text => Pass.transform_of_sameFunctions script.settings T.chain (.text text) functions
  obtain ⟨s', passes, context⟩ := evaluated _ (same _).symm ended
  have written : String.ofList (waiting [] first T).text = "$" ++ first.text ++ T.chain.text :=
    Phrase.ofList_symbol first T
  rw [written] at passes
  exact ⟨s', passes, context ▸ on, context ▸ off⟩

theorem chained_symbol_resolves_on_the_way :
    let a : Identifier := ⟨"a", by decide⟩
    let rest : List Identifier := [⟨"b", by decide⟩, ⟨"c", by decide⟩]
    let T : Steps := ⟨[⟨"a", false⟩, ⟨"cap", true⟩], by decide⟩
    let script : Script := { options := { maxPasses := 3 } }
    let s : State :=
      { context := [("c", .text " owl "), ("a", .text "$b"), ("b", .text "$c")],
        run := ⟨⟨[], 0⟩, []⟩ }
    s.context.Leads " owl " a rest ∧ ((a :: rest).map Identifier.text).Nodup ∧
      isUnfinished " owl " = false ∧ rest.length < script.options.maxPasses ∧
      isUnfinished (direct script s "owl" T.chain) = false ∧
      ∃ s', script.evaluate "$a.a.cap()" s = (.ok (.ok "An owl"), s') ∧
        s'.context.get? "a" = some (.text "owl") ∧ s'.context.get? "b" = some (.text "owl") ∧
        s'.context.get? "c" = some (.text " owl ") := by
  intro a rest T script s
  have leads : s.context.Leads " owl " a rest := ⟨rfl, rfl, rfl⟩
  have distinct : ((a :: rest).map Identifier.text).Nodup := by decide
  have finished : isUnfinished " owl " = false := by decide
  have trimmed : Text.trimmed " owl " = "owl" := by decide
  have value : direct script s "owl" T.chain = "An owl" := by decide +kernel
  have ended : isUnfinished (direct script s "owl" T.chain) = false := by
    rw [value]
    decide
  obtain ⟨s', evaluated, on, off⟩ := chained_symbol_resolves script s a rest " owl " T leads
    distinct finished (by decide) (by rw [if_neg (List.cons_ne_nil _ _), trimmed]; exact ended)
  rw [if_neg (List.cons_ne_nil _ _), trimmed, value] at evaluated
  rw [trimmed] at on
  exact ⟨leads, distinct, finished, by decide, ended, s', evaluated, on "a" (by decide),
    on "b" (by decide), off "c" (by decide)⟩

end TextGen.Script
