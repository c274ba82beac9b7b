import Mathlib
import TextGen.Proofs.Script.Bindings

/-! Texts that are not understood.
A text in which no construct opens is read up to its end, with one exception: a parenthesis that
opens there is looked upon as finished, but not understood. So a text that is rejected is unfinished
or ends in an opening parenthesis. -/
namespace TextGen.Script

def Cursor.last (c : Cursor) : Nat := c.position + c.rest.length - 1

variable {stops : List Char}

/- Reading the parts of a text without constructs. -/

theorem exists_readsNode_of_finished {first : Char} {b rest : List Char}
    (finished : opensConstruct (first :: rest) = false) (inside : first = '(' → rest ≠ []) :
    ∃ n next, ReadsNode stops first ⟨first :: b, rest⟩ n next ∧
      n.literal.getLast? ≠ some '(' ∧
      next.position + next.rest.length = b.length + (rest.length + 1) := by
  have here : opensConstruct (first :: rest) ≠ true := ne_true_of_eq_false finished
  have count : (first :: b).length + rest.length = b.length + (rest.length + 1) := by
    simp only [List.length_cons]
    omega
  by_cases line : first = '\n'
  · subst line
    exact ⟨_, _, .newline, by simp [Node.literal], count⟩
  by_cases dollar : first = '$'
  · subst dollar
    have named : Cursor.name? ⟨'$' :: b, rest⟩ = none := by
      rw [Option.eq_none_iff_forall_ne_some]
      intro read found
      exact here (opensConstruct_of_name? found)
    exact ⟨_, _, .dollar named, by simp [Node.literal], count⟩
  by_cases ampersand : first = '&'
  · subst ampersand
    have target : target? ⟨'&' :: b, rest⟩ = none := by
      rw [Option.eq_none_iff_forall_ne_some]
      intro read found
      exact here (opensConstruct_of_target? found).2
    exact ⟨_, _, .ampersand target, by simp [Node.literal], count⟩
  by_cases parenthesis : first = '('
  · subst parenthesis
    cases rest with
    | nil => exact absurd rfl (inside rfl)
    | cons second rest =>
      have shut : second = ')' := by
        by_contra other
        exact here (decide_eq_true other)
      subst shut
      refine ⟨_, ⟨')' :: '(' :: b, rest⟩, .pair rfl, by simp [Node.literal], ?_⟩
      simp only [Cursor.position, List.length_cons]
      omega
  by_cases brace : first = '\x7b'
  · subst brace
    have other : guard ⟨'\x7b' :: b, rest⟩ = .other := by
      by_contra found
      exact here (opensConstruct_of_guard found)
    exact ⟨_, _, .brace other, by simp [Node.literal], count⟩
  by_cases close : first = ')'
  · subst close
    exact ⟨_, _, .close, by simp [Node.literal], count⟩
  by_cases bar : first = '|'
  · subst bar
    exact ⟨_, _, .bar, by simp [Node.literal], count⟩
  have unsigned : first ∉ signs := by
    simp [signs, line, dollar, ampersand, parenthesis, brace, close, bar]
  refine ⟨_, _, .plain unsigned, ?_, ?_⟩
  · intro ends
    have mem : '(' ∈ first :: rest.takeWhile fun c => !signs.contains c && !stops.contains c := by
      simpa [plain, Node.literal, Cursor.span] using List.mem_of_getLast? ends
    rcases List.mem_cons.mp mem with same | mem
    · exact parenthesis same.symm
    · have passed := List.mem_takeWhile_imp mem
      simp [signs] at passed
  · have split := congrArg List.length
      (rest.takeWhile_append_dropWhile (p := fun c => !signs.contains c && !stops.contains c))
    simp only [List.length_append] at split
    simp only [plain, Cursor.position, Cursor.span, List.length_append, List.length_reverse,
      List.length_cons]
    omega

theorem node_of_open_at_end (b : List Char) :
    node stops '(' ⟨'(' :: b, []⟩ = .error (.unclosed '(' b.length) := by
  have empty : nodes ['|', ')'] ⟨'(' :: b, []⟩ = .ok ⟨[], ⟨'(' :: b, []⟩, Nat.le_refl _⟩ := by
    rw [nodes]
  have body : alternatives b.length ⟨'(' :: b, []⟩ = .error (.unclosed '(' b.length) := by
    rw [alternatives, empty]
    rfl
  have chosen : choice ⟨'(' :: b, []⟩ = .error (.unclosed '(' b.length) := by
    rw [choice]
    simp only [Cursor.position, List.length_cons, Nat.add_one_sub_one, body]
  rw [node, parens_of_inlineTarget?_eq_none rfl rfl, chosen]

/- Reading a text without constructs. -/

theorem nodes_cons_of_readsNode {first : Char} {b rest : List Char} {n : Node} {next : Cursor}
    (read : ReadsNode [] first ⟨first :: b, rest⟩ n next) :
    (∀ e, nodes [] next = .error e → nodes [] ⟨b, first :: rest⟩ = .error e) ∧
      ((∃ p, nodes [] next = .ok p) → ∃ p, nodes [] ⟨b, first :: rest⟩ = .ok p) := by
  obtain ⟨⟨_, _, within⟩, head, rfl, rfl⟩ := node_of_readsNode read
  constructor
  · intro e failed
    rw [nodes]
    simp [head, failed]
  · rintro ⟨p, more⟩
    rw [nodes]
    simp [head, more]

theorem nodes_of_finished : ∀ b text : List Char, holdsConstruct text = false →
    (text.getLast? ≠ some '(' → ∃ p, nodes [] ⟨b, text⟩ = .ok p) ∧
      (text.getLast? = some '(' →
        nodes [] ⟨b, text⟩ = .error (.unclosed '(' (Cursor.last ⟨b, text⟩)))
  | b, [], _ => by
    constructor
    · intro _
      rw [nodes]
      exact ⟨_, rfl⟩
    · intro ends
      cases ends
  | b, first :: rest, finished => by
    have opens := finished
    rw [holdsConstruct, Bool.or_eq_false_iff] at opens
    by_cases final : first = '(' ∧ rest = []
    · obtain ⟨rfl, rfl⟩ := final
      constructor
      · intro shut
        exact absurd rfl shut
      · intro _
        rw [nodes]
        simp [node_of_open_at_end, Cursor.last, Cursor.position]
    · have inside : first = '(' → rest ≠ [] := by
        intro same none
        exact final ⟨same, none⟩
      obtain ⟨n, next, read, solid, count⟩ :=
        @exists_readsNode_of_finished [] first b rest opens.1 inside
      have whole : first :: rest = n.literal ++ next.rest :=
        (literal_of_readsNode read finished).2
      have within : next.rest.length < (first :: rest).length := by
        obtain ⟨p, _, _, rfl⟩ := node_of_readsNode read
        exact Nat.lt_succ_of_le p.within
      have later : holdsConstruct next.rest = false := by
        simp only [whole] at finished
        exact holdsConstruct_of_append finished
      have step := nodes_of_finished next.before next.rest later
      have carried := nodes_cons_of_readsNode read
      constructor
      · intro shut
        apply carried.2
        apply step.1
        intro ends
        apply shut
        rw [whole, List.getLast?_append, ends]
        rfl
      · intro ends
        -- The parenthesis at the end is not read with this part, so it is left.
        have left : next.rest.getLast? = some '(' := by
          rw [whole, List.getLast?_append] at ends
          cases rest : next.rest.getLast? with
          | none =>
            rw [rest] at ends
            exact absurd ends solid
          | some other =>
            rw [rest] at ends
            exact ends
        have same : next.last = Cursor.last ⟨b, first :: rest⟩ := by
          rw [Cursor.last, count, Cursor.last, Cursor.position, List.length_cons]
        rw [← same]
        exact carried.1 _ (step.2 left)
termination_by _ text => text.length
decreasing_by exact within

/- Evaluation. -/

theorem passes_ne_error (script : Script) (left number : Nat) (text : String) (s : State)
    (e : ParseError) : (script.passes left (number + 1) text s).1 ≠ .ok (.error e) := by
  induction left generalizing number text s with
  | zero => nofun
  | succ left ih =>
    intro rejected
    rw [Script.passes, Drawn.andThen_fst_eq_ok] at rejected
    obtain ⟨outcome, -, rejected⟩ := rejected
    split at rejected
    · cases rejected
    · dsimp only at rejected
      split at rejected
      · exact ih _ _ _ rejected
      · cases rejected

theorem evaluate_eq_error_iff (script : Script) (text : String) (s : State) (e : ParseError) :
    (script.evaluate text s).1 = .ok (.error e) ↔
      Tree.ofText? text = .error e ∧ script.options.maxPasses ≠ 0 := by
  rw [Script.evaluate]
  cases script.options.maxPasses with
  | zero => simp [Script.passes]
  | succ left =>
    cases read : Tree.ofText? text with
    | error found => simp [Script.passes, Script.evaluatePass, read]
    | ok tree =>
      simp only [reduceCtorEq, false_and, iff_false, Script.passes, Script.evaluatePass, read]
      intro rejected
      obtain ⟨outcome, first, later⟩ := Drawn.andThen_fst_eq_ok.mp rejected
      obtain ⟨output, -, same⟩ := Drawn.andThen_fst_eq_ok.mp first
      cases same
      dsimp only at later
      split at later
      · exact passes_ne_error script left 0 _ _ e later
      · cases later

/- A line end that is shown as a blank opens nothing. -/

theorem spaced_eq_iff {c sign : Char} (other : sign ≠ '\n' ∧ sign ≠ ' ') :
    spaced c = sign ↔ c = sign := by
  unfold spaced
  split
  · rename_i line
    subst line
    exact iff_of_false (Ne.symm other.2) (Ne.symm other.1)
  · rfl

theorem comp_spaced {test : Char → Bool} (same : test ' ' = test '\n') : test ∘ spaced = test := by
  funext c
  rw [Function.comp_apply, spaced]
  split
  · rename_i line
    rw [line, same]
  · rfl

theorem head?_map_spaced {sign : Char} (other : sign ≠ '\n' ∧ sign ≠ ' ') (text : List Char) :
    ((text.map spaced).head? == some sign) = (text.head? == some sign) := by
  cases text with
  | nil => rfl
  | cons c text =>
    rw [Bool.eq_iff_iff]
    simp [spaced_eq_iff other]

theorem opensConstruct_of_other {c : Char} (other : c ∉ ['$', '&', '(', '\x7b']) (rest : List Char) :
    opensConstruct (c :: rest) = false := by
  unfold opensConstruct
  split
  all_goals first | rfl | simp_all

theorem opensConstruct_map_spaced (text : List Char) :
    opensConstruct (text.map spaced) = opensConstruct text := by
  have blank : Text.isBlank ∘ spaced = Text.isBlank := comp_spaced (by decide)
  have name : Cursor.isNameChar ∘ spaced = Cursor.isNameChar := comp_spaced (by decide)
  have start : ∀ c, Cursor.isNameStart (spaced c) = Cursor.isNameStart c :=
    congrFun (show Cursor.isNameStart ∘ spaced = Cursor.isNameStart from comp_spaced (by decide))
  cases text with
  | nil => rfl
  | cons c rest =>
    rw [List.map_cons]
    by_cases sign : c ∈ ['$', '&', '(', '\x7b']
    · simp only [List.mem_cons, List.not_mem_nil, or_false] at sign
      rcases sign with rfl | rfl | rfl | rfl
      · cases rest with
        | nil => rfl
        | cons next rest => exact start next
      · cases rest with
        | nil => rfl
        | cons next rest =>
          change (Cursor.isNameStart (spaced next) && _) = (Cursor.isNameStart next && _)
          rw [start, List.dropWhile_map, name, List.dropWhile_map, blank,
            head?_map_spaced (by decide)]
      · cases rest with
        | nil => rfl
        | cons next rest =>
          change decide (spaced next ≠ ')') = decide (next ≠ ')')
          rw [decide_eq_decide, ne_eq, spaced_eq_iff (by decide)]
      · change (((rest.map spaced).dropWhile Text.isBlank).head? == some '$') =
          ((rest.dropWhile Text.isBlank).head? == some '$')
        rw [List.dropWhile_map, blank, head?_map_spaced (by decide)]
    · have unsigned : spaced c ∉ ['$', '&', '(', '\x7b'] := by
        unfold spaced
        split
        · decide
        · exact sign
      rw [opensConstruct_of_other sign, opensConstruct_of_other unsigned]

theorem isUnfinished_map_spaced (text : String) :
    isUnfinished (text.map spaced) = isUnfinished text := by
  rw [isUnfinished, isUnfinished, String.toList_map]
  induction text.toList with
  | nil => rfl
  | cons c rest ih =>
    rw [List.map_cons, holdsConstruct, holdsConstruct, ih, ← List.map_cons,
      opensConstruct_map_spaced]

theorem exists_evaluate_of_finished {text : String} {t : Tree} (finished : isUnfinished text = false)
    (read : Tree.ofText? text = .ok t) (script : Script) (s : State) :
    ∃ output, (script.evaluate text s).1 = .ok (.ok output) := by
  rw [Script.evaluate]
  cases script.options.maxPasses with
  | zero => exact ⟨text, rfl⟩
  | succ left =>
    have pass := (finished_is_literal.1 text t finished read).2.2 script.settings 0 s
    have ended : isUnfinished (Text.trimmed (text.map spaced)) = false := by
      apply isUnfinished_trimmed
      rw [isUnfinished_map_spaced, finished]
    exact ⟨_, congrArg Prod.fst (passes_of_finished read pass ended)⟩

theorem ofText?_of_finished {text : String} (finished : isUnfinished text = false) :
    (text.toList.getLast? ≠ some '(' → ∃ t, Tree.ofText? text = .ok t) ∧
      (text.toList.getLast? = some '(' →
        Tree.ofText? text = .error (.unclosed '(' (text.length - 1))) := by
  have read := nodes_of_finished [] text.toList finished
  constructor
  · intro shut
    obtain ⟨p, found⟩ := read.1 shut
    refine ⟨p.value, ?_⟩
    simp only [Tree.ofText?, Cursor.start, found]
  · intro ends
    have place : Cursor.last ⟨[], text.toList⟩ = text.length - 1 := by
      rw [Cursor.last, Cursor.position, List.length_nil, Nat.zero_add, String.length_toList]
    simp only [Tree.ofText?, Cursor.start, read.2 ends, place]

/-- A text that is rejected is unfinished or ends in an opening parenthesis. One that is finished is
rejected exactly if it ends so, for this parenthesis, and then an evaluation with any pass fails;
all other evaluations of finished texts give a text. -/
theorem rejected_iff_ends_open (text : String) :
    (∀ e, Tree.ofText? text = .error e →
      isUnfinished text = true ∨ text.toList.getLast? = some '(') ∧
    (isUnfinished text = false →
      (∀ e, Tree.ofText? text = .error e ↔
        text.toList.getLast? = some '(' ∧ e = .unclosed '(' (text.length - 1)) ∧
      ∀ (script : Script) (s : State),
        ((∃ e, (script.evaluate text s).1 = .ok (.error e)) ↔
          text.toList.getLast? = some '(' ∧ script.options.maxPasses ≠ 0) ∧
        ((∃ output, (script.evaluate text s).1 = .ok (.ok output)) ↔
          ¬ (text.toList.getLast? = some '(' ∧ script.options.maxPasses ≠ 0))) := by
  have exact : isUnfinished text = false → ∀ e, Tree.ofText? text = .error e ↔
      text.toList.getLast? = some '(' ∧ e = .unclosed '(' (text.length - 1) := by
    intro finished e
    have read := ofText?_of_finished finished
    by_cases ends : text.toList.getLast? = some '('
    · rw [read.2 ends]
      simp [ends, eq_comm]
    · obtain ⟨t, found⟩ := read.1 ends
      simp [found, ends]
  constructor
  · intro e rejected
    cases finished : isUnfinished text with
    | true => exact .inl rfl
    | false => exact .inr ((exact finished e).mp rejected).1
  · intro finished
    refine ⟨exact finished, fun script s => ?_⟩
    by_cases fails : text.toList.getLast? = some '(' ∧ script.options.maxPasses ≠ 0
    · have rejected := (exact finished _).mpr ⟨fails.1, rfl⟩
      have failed := (evaluate_eq_error_iff script text s _).mpr ⟨rejected, fails.2⟩
      simp [failed, fails]
    · have returned : ∃ output, (script.evaluate text s).1 = .ok (.ok output) := by
        by_cases ends : text.toList.getLast? = some '('
        · have none : script.options.maxPasses = 0 := by
            by_contra some_
            exact fails ⟨ends, some_⟩
          rw [Script.evaluate, none]
          exact ⟨text, rfl⟩
        · obtain ⟨t, read⟩ := (ofText?_of_finished finished).1 ends
          exact exists_evaluate_of_finished finished read script s
      obtain ⟨output, done⟩ := returned
      simp [done, fails]

theorem rejected_iff_ends_open_of_signs :
    let s : State := { run := ⟨⟨[], 0⟩, []⟩ }
    isUnfinished "$5 & () (" = false ∧ isUnfinished "$5 & ()" = false ∧
      (∃ e, (({} : Script).evaluate "$5 & () (" s).1 = .ok (.error e)) ∧
      ∃ output, (({} : Script).evaluate "$5 & ()" s).1 = .ok (.ok output) := by
  intro s
  have opened : isUnfinished "$5 & () (" = false := by decide
  have shut : isUnfinished "$5 & ()" = false := by decide
  refine ⟨opened, shut, ?_, ?_⟩
  · exact (((rejected_iff_ends_open _).2 opened).2 {} s).1.mpr ⟨by decide, by decide⟩
  · exact (((rejected_iff_ends_open _).2 shut).2 {} s).2.mpr (by decide)

/-- A parenthesis that opens at the end is rejected, but looked upon as finished. -/
theorem rejected_open_at_end :
    let s : State := { run := ⟨⟨[], 0⟩, []⟩ }
    Tree.ofText? "say (" = .error (.unclosed '(' 4) ∧ isUnfinished "say (" = false ∧
      (({} : Script).evaluate "say (" s).1 = .ok (.error (.unclosed '(' 4)) := by
  intro s
  have rejected : Tree.ofText? "say (" = .error (.unclosed '(' 4) := by with_unfolding_all rfl
  refine ⟨rejected, by decide, ?_⟩
  exact (evaluate_eq_error_iff {} _ s _).mpr ⟨rejected, by decide⟩

end TextGen.Script
