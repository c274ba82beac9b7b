import Mathlib
import TextGen.Proofs.Script.Inline
import TextGen.Proofs.Script.Visits
import TextGen.Proofs.Script.Related
import TextGen.Proofs.Text.Runs

/-! Statements.
The value of an assignment that stands on a line of its own goes up to the line end. If no construct
opens in it, it is read as it stands, whatever the next line holds. -/
namespace TextGen.Script

variable {v rest b : List Char}

/- Signs that open nothing on their line. -/

theorem head?_dropWhile_of_line {sign : Char} (solid : Text.isBlank sign = false)
    (head : ((v ++ '\n' :: rest).dropWhile Cursor.isSpace).head? = some sign) :
    (v.dropWhile Text.isBlank).head? = some sign := by
  rw [Text.dropWhile_append_stop v rest (by decide)] at head
  cases left : v.dropWhile Cursor.isSpace with
  | nil =>
    rw [left] at head
    cases head
    cases solid
  | cons c u =>
    rw [left] at head
    cases head
    rw [dropWhile_isBlank solid left, List.head?_cons]

theorem name?_eq_none_of_line (closed : opensConstruct ('$' :: v) = false) :
    Cursor.name? ⟨b, v ++ '\n' :: rest⟩ = none := by
  cases v with
  | nil => rfl
  | cons c v =>
    have start : Cursor.isNameStart c = false := closed
    simp [Cursor.name?, start]

theorem target?_eq_none_of_line (closed : opensConstruct ('&' :: v) = false) :
    target? ⟨b, v ++ '\n' :: rest⟩ = none := by
  by_contra found
  obtain ⟨⟨name, next⟩, target⟩ := Option.ne_none_iff_exists'.mp found
  obtain ⟨mid, named, equals⟩ := exists_name?_of_target? target
  obtain ⟨first, more, written, start, after⟩ := Cursor.exists_of_name? named
  cases v with
  | nil =>
    cases written
    cases start
  | cons c v =>
    cases written
    have left : mid.rest = v.dropWhile Cursor.isNameChar ++ '\n' :: rest := by
      have within := Cursor.isNameChar_of_isNameStart start
      rw [after, List.cons_append, List.dropWhile_cons_of_pos within,
        Text.dropWhile_append_stop v rest (by decide)]
    have head : (mid.rest.dropWhile Cursor.isSpace).head? = some '=' := congrArg List.head? equals
    rw [left] at head
    have sign := head?_dropWhile_of_line (by decide) head
    simp [opensConstruct, start, sign] at closed

theorem guard_eq_other_of_line (closed : opensConstruct ('\x7b' :: v) = false) :
    guard ⟨b, v ++ '\n' :: rest⟩ = .other := by
  apply guard_of_condition?_eq_none
  have none : (Cursor.skipSpaces ⟨b, v ++ '\n' :: rest⟩).after? '$' = none := by
    apply Cursor.after?_eq_none
    intro head
    have sign := head?_dropWhile_of_line (by decide) head
    simp [opensConstruct, sign] at closed
  simp [condition?, Cursor.nameAfter?, none]

/- Lines. -/

theorem readsNode_of_line {c : Char} (closed : opensConstruct (c :: v) = false) (sign : c ∈ signs)
    (line : c ≠ '\n') (other : c ≠ '(') :
    ReadsNode ['\n'] c ⟨b, v ++ '\n' :: rest⟩ (.text (String.singleton c))
      ⟨b, v ++ '\n' :: rest⟩ := by
  simp only [signs, List.mem_cons, List.not_mem_nil, or_false] at sign
  rcases sign with rfl | rfl | rfl | rfl | rfl | rfl | rfl
  · exact .dollar (name?_eq_none_of_line closed)
  · exact .ampersand (target?_eq_none_of_line closed)
  · exact absurd rfl other
  · exact .close
  · exact .bar
  · exact .brace (guard_eq_other_of_line closed)
  · exact absurd rfl line

theorem Tree.cons_ofPlain (run text : List Char) (some_ : run ≠ []) :
    Tree.cons (.text (String.ofList run)) (ofPlain (String.ofList text)) =
      ofPlain (String.ofList (run ++ text)) := by
  rw [cons_text_ofPlain, ← String.ofList_append, ofPlain, if_neg (by simp [some_])]

theorem getLast?_ne_of_cons {c d : Char} (h : (c :: v).getLast? ≠ some d) :
    v.getLast? ≠ some d := by
  cases v with
  | nil => exact nofun
  | cons x v => rwa [List.getLast?_cons_cons] at h

/-- A line without constructs is read up to its end. The recursion is on what is left of the line,
and a pair of parentheses is read at once. -/
theorem readsAs_line (rest : List Char) : ∀ v : List Char, holdsConstruct v = false → '\n' ∉ v →
    v.getLast? ≠ some '(' →
    ReadsAs ['\n'] (v ++ '\n' :: rest) (Tree.ofPlain (String.ofList v)) ('\n' :: rest)
  | [], _, _, _ => .stop List.mem_cons_self
  | c :: v, finished, line, shut => by
    obtain ⟨closed, later⟩ := Bool.or_eq_false_iff.mp finished
    obtain ⟨apart, inLine⟩ := not_or.mp (List.mem_cons.not.mp line)
    have shutLater := getLast?_ne_of_cons shut
    by_cases opens : c = '('
    · subst opens
      cases v with
      | nil => exact absurd rfl shut
      | cons d v =>
        obtain rfl : d = ')' := by simpa [opensConstruct] using closed
        have tail := readsAs_line rest v (Bool.or_eq_false_iff.mp later).2
          (fun mem => inLine (List.mem_cons_of_mem _ mem)) (getLast?_ne_of_cons shutLater)
        have joined : Tree.ofPlain (String.ofList ('(' :: ')' :: v)) =
            Tree.cons (.text "()") (Tree.ofPlain (String.ofList v)) :=
          (Tree.cons_ofPlain ['(', ')'] v (List.cons_ne_nil _ _)).symm
        rw [joined]
        exact .node (by decide) (fun b => ⟨.text "()", _, .pair rfl, rfl, rfl⟩) tail
    · have tail := readsAs_line rest v later inLine shutLater
      have joined : Tree.ofPlain (String.ofList (c :: v)) =
          Tree.cons (.text (String.singleton c)) (Tree.ofPlain (String.ofList v)) :=
        (Tree.cons_ofPlain [c] v (List.cons_ne_nil _ _)).symm
      have goesOn : c ∉ ['\n'] := by simpa using Ne.symm apart
      rw [joined]
      by_cases sign : c ∈ signs
      · exact .node goesOn
          (fun b => ⟨_, _, readsNode_of_line closed sign (Ne.symm apart) opens, rfl, rfl⟩) tail
      · exact .plain (isPlain_iff.mpr ⟨sign, goesOn⟩) tail

/- A statement and the line after it. -/

theorem Tree.trim_ofPlain (s : String) : (ofPlain s).trim = ofPlain (Text.trimmed s) := by
  by_cases none : s = ""
  · subst none
    rfl
  · have ends : trimNodeEnd (trimNodeStart (.text s)) = .text (Text.trimmed s) := by
      simp [trimNodeEnd, trimNodeStart, Text.trimmed, Text.trim]
    rw [ofPlain, if_neg none, trim]
    simp only [mapLast, ends]
    by_cases empty : Text.trimmed s = ""
    · simp [ofPlain, isBlankText, empty]
    · simp [ofPlain, isBlankText, empty]

theorem isInline_ofPlain (s : String) : (Tree.ofPlain s).isInline = true := by
  unfold Tree.ofPlain
  split <;> rfl

theorem visitTree_ofPlain (settings : Settings) (s : String) (p : Pass) :
    visitTree settings (Tree.ofPlain s) p = (.ok s, p) := by
  unfold Tree.ofPlain
  split
  · rename_i none
    rw [none]
    rfl
  · simp [visitTree, visitNode]

theorem exists_spacedTarget? {c : Cursor} {name : String} (named : isName name = true)
    (text : c.rest = name.toList ++ ' ' :: '=' :: ' ' :: rest) :
    ∃ next, target? c = some (name, next) ∧ next.rest = ' ' :: rest := by
  obtain ⟨mid, read, left⟩ := Cursor.exists_name? named text fun x head => by
    cases head
    decide
  have single : (' ' :: rest).head? ≠ some '=' := by
    rintro ⟨⟩
  have spaced : mid.skipSpaces.rest = '=' :: ' ' :: rest := by
    change mid.rest.dropWhile Cursor.isSpace = '=' :: ' ' :: rest
    rw [left, List.dropWhile_cons_of_pos (by decide), List.dropWhile_cons_of_neg (by decide)]
  obtain ⟨next, equals, after⟩ := Cursor.exists_after? spaced
  refine ⟨next, ?_, after⟩
  simp only [target?, read, Option.bind_some, Cursor.assigned?, equals, after, if_neg single,
    Option.map_some]

theorem exists_ofText?_statement (x : Identifier) (phrase : Phrase) {v : String}
    (finished : isUnfinished v = false) (line : '\n' ∉ v.toList)
    (shut : v.toList.getLast? ≠ some '(') :
    ∃ t u, Tree.ofText? ("$" ++ x.text ++ " = " ++ v ++ "\n" ++ String.ofList phrase.text) =
        .ok (.assign x.text t 0 false [] :: u) ∧
      Tree.mapColumns (fun _ => 0) t = Tree.ofPlain (Text.trimmed v) ∧
      Tree.mapColumns (fun _ => 0) u = phrase.tree := by
  have written : ("$" ++ x.text ++ " = " ++ v ++ "\n" ++ String.ofList phrase.text).toList =
      '$' :: (x.text.toList ++ ' ' :: '=' :: ' ' :: (v.toList ++ '\n' :: phrase.text)) := by
    simp
  obtain ⟨equals, target, start⟩ := exists_spacedTarget? (c := ⟨['$'], x.text.toList ++ ' ' ::
    '=' :: ' ' :: (v.toList ++ '\n' :: phrase.text)⟩) x.named rfl
  -- The line is read with the blank before it, which the reader of a value skips.
  have lineRead := ReadsAs.plain (c := ' ') (by decide)
    (readsAs_line phrase.text v.toList finished line shut)
  obtain ⟨t₁, next, value, left, columns⟩ := lineRead equals.before
  rw [← start] at value
  obtain ⟨t, spaced, trimmed⟩ := exists_reads_skipSpaces value (by simp [Cursor.isSpace])
  have after : (afterStatement 0 next).rest = phrase.text := by
    obtain ⟨mid, found, rest⟩ := Cursor.exists_after? left
    rw [afterStatement, if_pos rfl, Cursor.skipLineEnd, found, Option.getD_some, rest]
  have tail := phrase.reads (s := "") (List.nil_subset _) rfl (.done [])
  rw [List.append_nil, Tree.addEnd_empty] at tail
  obtain ⟨u, last, read, -, more⟩ := tail (afterStatement 0 next).before
  rw [← after] at read
  refine ⟨t.trim, u, (ofText?_eq_ok_iff _ _).mpr ⟨last, ?_⟩, ?_, more⟩
  · rw [Cursor.start, written]
    exact .cons List.not_mem_nil (.assign target spaced) read
  · rw [← trimmed, Tree.mapColumns_trim, columns, Tree.trim_cons_blank (by decide),
      Tree.trim_ofPlain, String.ofList_toList]

/-- A statement binds its line, without the blanks around it, before what follows it is visited. -/
theorem visitTree_statement (settings : Settings) (x : Identifier) (phrase : Phrase) {v : String}
    {t u : Tree} (value : Tree.mapColumns (fun _ => 0) t = Tree.ofPlain (Text.trimmed v))
    (tail : Tree.mapColumns (fun _ => 0) u = phrase.tree) (p : Pass) :
    visitTree settings (.assign x.text t 0 false [] :: u) p = visitTree settings phrase.tree
      ((p.tell settings ("$" ++ x.text ++ " = '" ++ Text.trimmed v ++ "'")).bind x.text
        (.text (Text.trimmed v))) := by
  have inline : t.isInline = true := by
    rw [← Tree.isInline_mapColumns t, value]
    exact isInline_ofPlain _
  have rest : u.isInline = true := by
    rw [← Tree.isInline_mapColumns u, tail]
    exact phrase.isInline_tree
  have first : visitTree settings t p = (.ok (Text.trimmed v), p) := by
    rw [← visitTree_of_inline settings t p inline, value, visitTree_ofPlain]
  have later : ∀ q, visitTree settings u q = visitTree settings phrase.tree q := by
    intro q
    rw [← visitTree_of_inline settings u q rest, tail]
  simp only [visitTree, visitNode, first, Drawn.andThen_ok, Text.trimmed_trimmed, Pass.assign,
    Bool.not_false, decide_true, Bool.and_self, if_true, Drawn.done, later]
  generalize visitTree settings phrase.tree _ = result
  obtain ⟨_ | more, q⟩ := result
  · rfl
  · simp only [Drawn.andThen_ok, String.empty_append]

/-- A text that is assigned on a line of its own and shown on the next one is shown without the
blanks around it, after one pass. The symbol is bound to it, and nothing else has changed. -/
theorem assigned_line_is_shown (script : Script) (s : State) (x : Identifier) (v : String)
    (finished : isUnfinished v = false) (line : '\n' ∉ v.toList)
    (shut : v.toList.getLast? ≠ some '(') (enough : 1 ≤ script.options.maxPasses) :
    ∃ s₁ s', script.evaluatePass 0 ("$" ++ x.text ++ " = " ++ v ++ "\n$" ++ x.text) s =
        (.ok (.ok (Text.trimmed v, false)), s₁) ∧
      script.evaluate ("$" ++ x.text ++ " = " ++ v ++ "\n$" ++ x.text) s =
        (.ok (.ok (Text.trimmed v)), s') ∧
      s' = script.tell ("pass 0: '" ++ Text.trimmed v ++ "'") s₁ ∧
      s'.context.get? x.text = some (.text (Text.trimmed v)) ∧
      (∀ name ≠ x.text, s'.context.get? name = s.context.get? name) ∧
      s'.run.source = s.run.source ∧ s'.choices = s.choices := by
  let phrase : Phrase := .one (.symbol x .none)
  have text : "$" ++ x.text ++ " = " ++ v ++ "\n" ++ String.ofList phrase.text =
      "$" ++ x.text ++ " = " ++ v ++ "\n$" ++ x.text := by
    apply String.toList_inj.mp
    simp [phrase, Phrase.text, Item.text, Chain.text]
  obtain ⟨t, u, read, value, tail⟩ := exists_ofText?_statement x phrase finished line shut
  rw [text] at read
  let p : Pass := ⟨0, 0, [], s⟩
  let q : Pass := (p.tell script.settings ("$" ++ x.text ++ " = '" ++ Text.trimmed v ++ "'")).bind
    x.text (.text (Text.trimmed v))
  let r : Pass := q.tell script.settings ("$" ++ x.text ++ " -> '" ++ Text.trimmed v ++ "'")
  have free : x.text ∉ q.pending := by simp [q, p]
  have bound : q.context.get? x.text = some (.text (Text.trimmed v)) := Context.get?_bind_self
  have ended := isUnfinished_trimmed finished
  have resolved : q.symbol script.settings x.text [] = (Text.trimmed v, r) :=
    Pass.symbol_of_finished script.settings [] free bound ended
  have visited : visitTree script.settings (.assign x.text t 0 false [] :: u) p =
      (.ok (Text.trimmed v), r) := by
    rw [visitTree_statement script.settings x phrase value tail p, visitTree_one]
    exact congrArg Drawn.done resolved
  have pass : runPass script.settings 0 (.assign x.text t 0 false [] :: u) s =
      (.ok (Text.trimmed v), r.state) := by
    rw [runPass, visited]
    simp only [Except.map, Text.trimmed_trimmed]
  obtain ⟨left, passes⟩ := Nat.exists_eq_add_of_le' enough
  have context : r.state.context = s.context.bind x.text (.text (Text.trimmed v)) := by
    have told : r.context = q.context := Pass.context_tell ..
    have before : q.context = p.context.bind x.text (.text (Text.trimmed v)) := by
      simp only [q, Pass.context_bind, Pass.context_tell]
    exact told.trans before
  refine ⟨r.state, _, ?_, ?_, rfl, ?_, ?_, ?_, ?_⟩
  · simp only [Script.evaluatePass, read, pass, Drawn.andThen_ok, ended]
  · rw [Script.evaluate, passes, passes_of_finished read pass ended]
    rfl
  · rw [context_tell, context, Context.get?_bind_self]
  · intro name apart
    rw [context_tell, context, Context.get?_bind_of_ne apart]
  · rw [source_tell]
    exact (Pass.source_tell ..).trans (Pass.source_tell ..)
  · rw [choices_tell]
    exact (Pass.choices_tell ..).trans (Pass.choices_tell ..)

theorem assigned_line_is_shown_of_signs :
    let v := " $5 & \x7bx\x7d [a] ()= | ) "
    let s : State := { context := [("x", .text "$y"), ("y", .text "b")], run := ⟨⟨[], 0⟩, []⟩ }
    isUnfinished v = false ∧ '\n' ∉ v.toList ∧ v.toList.getLast? ≠ some '(' ∧
      1 ≤ ({} : Script).options.maxPasses ∧
      ∃ s₁ s', ({} : Script).evaluatePass 0 ("$x = " ++ v ++ "\n$x") s =
          (.ok (.ok ("$5 & \x7bx\x7d [a] ()= | )", false)), s₁) ∧
        ({} : Script).evaluate ("$x = " ++ v ++ "\n$x") s =
          (.ok (.ok "$5 & \x7bx\x7d [a] ()= | )"), s') ∧
        s'.context.get? "x" = some (.text "$5 & \x7bx\x7d [a] ()= | )") ∧
        s'.context.get? "y" = some (.text "b") ∧ s'.run.source = s.run.source := by
  intro v s
  have finished : isUnfinished v = false := by decide
  have trimmed : Text.trimmed v = "$5 & \x7bx\x7d [a] ()= | )" := by decide
  obtain ⟨s₁, s', pass, evaluated, -, bound, kept, source, -⟩ := assigned_line_is_shown {} s
    ⟨"x", by decide⟩ v finished (by decide) (by decide) (by decide)
  rw [trimmed] at pass evaluated bound
  exact ⟨finished, by decide, by decide, by decide, s₁, s', pass, evaluated, bound,
    kept "y" (by decide), source⟩

end TextGen.Script
