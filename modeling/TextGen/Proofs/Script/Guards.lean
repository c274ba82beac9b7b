import Mathlib
import TextGen.Proofs.Script.Chained
import TextGen.Proofs.Text.Runs

/-! What a guard compares.
A guard looks at the text to which its symbol is bound when it is visited, and what it decides is
not decided again. So it compares a text that leads to another symbol as it stands. -/
namespace TextGen.Script

variable {rest l : List Char} {spelling : String} {o : Operator} {body : PlainWord}

/- Reading a condition. -/

theorem trim_dropWhile_isSpace (text : List Char) :
    Text.trim (text.dropWhile Cursor.isSpace) = Text.trim text := by
  induction text with
  | nil => rfl
  | cons c text ih =>
    by_cases space : Cursor.isSpace c = true
    · have blank := Cursor.isBlank_of_isSpace space
      rw [List.dropWhile_cons_of_pos space, ih, Text.trim, Text.trim, Text.trimStart,
        Text.trimStart, List.dropWhile_cons_of_pos blank]
    · rw [List.dropWhile_cons_of_neg space]

theorem findSome?_spelling {text : List Char} (b rest : List Char)
    (spellings : List (String × Operator)) (without : ∀ s ∈ spellings, ' ' ∉ s.1.toList)
    (found : (spellings.findSome? fun s =>
      (Text.dropPrefix? s.1.toList text).map fun left => (s.2, left)) = some (o, [])) :
    ∃ before, (spellings.findSome? fun s =>
      (Text.dropPrefix? s.1.toList (text ++ ' ' :: rest)).map fun left =>
        (s.2, Cursor.mk (s.1.toList.reverse ++ b) left)) = some (o, ⟨before, ' ' :: rest⟩) := by
  induction spellings with
  | nil => cases found
  | cons s spellings ih =>
    have dropped := Text.dropPrefix?_append_stop s.1.toList text rest
      (without s List.mem_cons_self)
    simp only [List.findSome?_cons, dropped] at found ⊢
    cases left : Text.dropPrefix? s.1.toList text with
    | none =>
      rw [left] at found
      exact ih (fun t mem => without t (List.mem_cons_of_mem s mem)) found
    | some left =>
      simp only [left, Option.map_some, Option.some.injEq, Prod.mk.injEq] at found
      obtain ⟨rfl, rfl⟩ := found
      exact ⟨_, rfl⟩

theorem exists_operator? (mem : (spelling, o) ∈ Operator.spellings) {c : Cursor}
    (text : c.rest = spelling.toList ++ ' ' :: rest) :
    ∃ next, operator? c = some (o, next) ∧ next.rest = ' ' :: rest := by
  have all : ∀ entry ∈ Operator.spellings, (Operator.spellings.findSome? fun s =>
      (Text.dropPrefix? s.1.toList entry.1.toList).map fun left => (s.2, left)) =
        some (entry.2, []) := by
    decide
  obtain ⟨before, found⟩ :=
    findSome?_spelling c.before rest Operator.spellings (by decide) (all _ mem)
  refine ⟨⟨before, ' ' :: rest⟩, ?_, rfl⟩
  rw [operator?, text]
  exact found

theorem dropWhile_spelling (mem : (spelling, o) ∈ Operator.spellings) :
    (spelling.toList ++ rest).dropWhile Cursor.isSpace = spelling.toList ++ rest := by
  have all : ∀ entry ∈ Operator.spellings,
      entry.1.toList.head?.any (!Cursor.isSpace ·) = true := by
    decide
  have solid := all _ mem
  cases signs : spelling.toList with
  | nil => simp [signs] at solid
  | cons x signs' =>
    rw [List.cons_append, List.dropWhile_cons_of_neg]
    simpa [signs] using solid

theorem isSpace_of_isConditionChar {stop : Char} (stopped : isConditionChar stop = false) :
    Cursor.isSpace stop = false := by
  simp only [isConditionChar, Bool.and_eq_false_iff, decide_eq_false_iff_not, not_not,
    or_assoc] at stopped
  rcases stopped with rfl | rfl | rfl <;> decide

theorem exists_condition? (name : Identifier) (mem : (spelling, o) ∈ Operator.spellings)
    (plain : ∀ x ∈ l, isConditionChar x = true) {stop : Char}
    (stopped : isConditionChar stop = false) {c : Cursor}
    (text : c.skipSpaces.rest = '$' :: (name.text.toList ++ ' ' :: (spelling.toList ++ ' ' ::
      (l ++ stop :: rest)))) :
    ∃ next, condition? c = some (⟨name.text, o, Text.trimmed (String.ofList l)⟩, next) ∧
      next.rest = stop :: rest := by
  obtain ⟨sign, dollar, named⟩ := Cursor.exists_after? text
  obtain ⟨mid, read, left⟩ := Cursor.exists_name? name.named named (by rintro x ⟨⟩; decide)
  have spaced : mid.skipSpaces.rest = spelling.toList ++ ' ' :: (l ++ stop :: rest) := by
    change mid.rest.dropWhile Cursor.isSpace = _
    rw [left, List.dropWhile_cons_of_pos (by decide), dropWhile_spelling mem]
  obtain ⟨past, sign, after⟩ := exists_operator? mem spaced
  have line : past.skipSpaces.rest = l.dropWhile Cursor.isSpace ++ stop :: rest := by
    change past.rest.dropWhile Cursor.isSpace = _
    rw [after, List.dropWhile_cons_of_pos (by decide),
      Text.dropWhile_append_stop l rest (isSpace_of_isConditionChar stopped)]
  have inside : ∀ x ∈ l.dropWhile Cursor.isSpace, isConditionChar x = true :=
    fun x mem => plain x ((List.dropWhile_suffix _).subset mem)
  have value : (past.skipSpaces.span isConditionChar).1 = l.dropWhile Cursor.isSpace := by
    change past.skipSpaces.rest.takeWhile isConditionChar = _
    rw [line, Text.takeWhile_append_stop _ rest stopped, List.takeWhile_eq_self_iff.mpr inside]
  refine ⟨(past.skipSpaces.span isConditionChar).2, ?_, ?_⟩
  · simp only [condition?, Cursor.nameAfter?, dollar, Option.bind_some, read, sign,
      Option.map_some, value, Text.trimmed, String.toList_ofList, trim_dropWhile_isSpace]
  · change past.skipSpaces.rest.dropWhile isConditionChar = _
    rw [line, Text.dropWhile_append_stop _ rest stopped, List.dropWhile_eq_nil_iff.mpr inside,
      List.nil_append]

/- Evaluating a guarded word. -/

theorem PlainWord.exists_readsNode (w : PlainWord) {d : Char} {more : List Char}
    (letters : w.text.toList = d :: more) (b : List Char) :
    ∃ last, ReadsNode [] d ⟨b, more⟩ (.text w.text) last ∧ last.rest = [] := by
  have run : ∀ x ∈ d :: more, isPlain [] x = true := by
    rw [← letters]
    exact fun x mem => isPlain_of_isAlphanum (w.isAlphanum x mem) (List.nil_subset _)
  obtain ⟨first, later⟩ := List.forall_mem_cons.mp run
  have read : ReadsNode [] d ⟨b, more⟩ _ _ := .plain (isPlain_iff.mp first).1
  rw [plain_value, Cursor.span, List.takeWhile_eq_self_iff.mpr later, ← letters,
    String.ofList_toList] at read
  exact ⟨_, read, List.dropWhile_eq_nil_iff.mpr later⟩

def guardedWord (name : Identifier) (spelling l : String) (body : PlainWord) : String :=
  "\x7b$" ++ name.text ++ " " ++ spelling ++ " " ++ l ++ "\x7d " ++ body.text

theorem ofText?_guardedWord (name : Identifier) (mem : (spelling, o) ∈ Operator.spellings)
    {l : String} (plain : ∀ x ∈ l.toList, isConditionChar x = true) (body : PlainWord) :
    Tree.ofText? (guardedWord name spelling l body) =
      .ok [.guarded [⟨name.text, o, Text.trimmed l⟩] [.text body.text]] := by
  have written : (guardedWord name spelling l body).toList = '\x7b' :: '$' :: (name.text.toList ++
      ' ' :: (spelling.toList ++ ' ' :: (l.toList ++ '\x7d' :: ' ' :: body.text.toList))) := by
    simp [guardedWord]
  obtain ⟨next, condition, left⟩ := exists_condition? name mem plain
    (show isConditionChar '\x7d' = false by decide) (c := ⟨['\x7b'], '$' ::
    (name.text.toList ++ ' ' :: (spelling.toList ++ ' ' :: (l.toList ++ '\x7d' :: ' ' ::
      body.text.toList)))⟩) rfl
  rw [String.ofList_toList] at condition
  have comma : next.after? ',' = none := by
    apply Cursor.after?_eq_none
    rw [left]
    rintro ⟨⟩
  obtain ⟨closed, brace, after⟩ := Cursor.exists_after? left
  obtain ⟨within, found⟩ := guard_of_brace condition comma brace
  obtain ⟨d, more, letters⟩ := List.exists_cons_of_ne_nil body.toList_ne_nil
  have letter : d.isAlphanum = true := body.isAlphanum d (by simp [letters])
  have solid : Cursor.isSpace d = false := isSpace_of_opensItem (by simp [opensItem, letter])
  have start : closed.skipSpaces.rest = d :: more := by
    change closed.rest.dropWhile Cursor.isSpace = _
    rw [after, letters, List.dropWhile_cons_of_pos (by decide),
      List.dropWhile_cons_of_neg (by simp [solid])]
  have line : d ≠ '\n' := by
    rintro rfl
    exact absurd letter (by decide)
  obtain ⟨⟨b, _⟩, word, rfl⟩ := body.exists_readsNode letters (d :: closed.skipSpaces.before)
  refine (ofText?_eq_ok_iff _ _).mpr ⟨⟨b, []⟩, ?_⟩
  rw [Cursor.start, written]
  exact .cons List.not_mem_nil (.guarded found start line List.not_mem_nil word) .done

theorem meets_one {p : Pass} {name w l : String} (bound : p.context.get? name = some (.text w)) :
    (p.meets [⟨name, o, Text.trimmed l⟩]).1 = (o.holds w l p.state.run).1 := by
  have literal : o.holds w (Text.trimmed l) p.state.run = o.holds w l p.state.run := by
    simp only [Operator.holds, Text.trimmed_trimmed]
  simp only [Pass.meets, bound, Value.display, literal]
  split
  · rename_i held
    rw [held]
  · rename_i failed
    simpa using failed

/-- A guarded word is shown if its condition holds for the text to which the symbol is bound when it
is visited. -/
theorem evaluate_guardedWord (script : Script) (s : State) {name : Identifier}
    (mem : (spelling, o) ∈ Operator.spellings) {l w : String}
    (plain : ∀ x ∈ l.toList, isConditionChar x = true) (body : PlainWord)
    (bound : s.context.get? name.text = some (.text w)) (enough : 1 ≤ script.options.maxPasses) :
    (script.evaluate (guardedWord name spelling l body) s).1 =
      .ok (.ok (if (o.holds w l s.run).1 then body.text else "")) := by
  have read := ofText?_guardedWord name mem plain body
  have met := meets_one (p := ⟨0, 0, [], s⟩) (o := o) (l := l) bound
  obtain ⟨s', pass⟩ : ∃ s', runPass script.settings 0 [.guarded [⟨name.text, o, Text.trimmed l⟩]
      [.text body.text]] s = (.ok (if (o.holds w l s.run).1 then body.text else ""), s') := by
    rw [← met]
    simp only [runPass, visitTree, visitNode]
    rcases Pass.meets _ _ with ⟨_ | _, q⟩
    · exact ⟨q.state, rfl⟩
    · exact ⟨q.state, by simp [Except.map, body.trimmed_text]⟩
  have finished : isUnfinished (if (o.holds w l s.run).1 then body.text else "") = false := by
    split
    · exact body.isUnfinished_text
    · rfl
  obtain ⟨left, passes⟩ := Nat.exists_eq_add_of_le' enough
  rw [Script.evaluate, passes]
  exact congrArg Prod.fst (passes_of_finished read pass finished)

def firstText (v : String) : List Identifier → String
  | [] => v
  | b :: _ => "$" ++ b.text

theorem Context.Leads.get?_first {context : Context} {v : String} {a : Identifier}
    {rest : List Identifier} (leads : context.Leads v a rest) :
    context.get? a.text = some (.text (firstText v rest)) := by
  cases rest with
  | nil => exact leads
  | cons b rest => exact leads.1

/-- A guard compares the text to which its symbol is bound, also if this only leads to another
symbol. So the guarded word is shown as for the text at the end of the way exactly if the two texts
compare alike. -/
theorem guard_agrees_iff (script : Script) (s : State) (first : Identifier)
    (rest : List Identifier) (v : String) (leads : s.context.Leads v first rest)
    (spelling : String) (o : Operator) (mem : (spelling, o) ∈ Operator.spellings) (l : String)
    (plain : l.toList.all isConditionChar = true) (body : PlainWord)
    (enough : 1 ≤ script.options.maxPasses) :
    (script.evaluate (guardedWord first spelling l body) s).1 =
        .ok (.ok (if (o.holds (firstText v rest) l s.run).1 then body.text else "")) ∧
      ((script.evaluate (guardedWord first spelling l body) s).1 =
          .ok (.ok (if (o.holds v l s.run).1 then body.text else "")) ↔
        (o.holds (firstText v rest) l s.run).1 = (o.holds v l s.run).1) := by
  have evaluated := evaluate_guardedWord script s mem (List.all_eq_true.mp plain) body
    leads.get?_first enough
  refine ⟨evaluated, ?_⟩
  rw [evaluated]
  have shown := body.some_
  cases (o.holds (firstText v rest) l s.run).1 <;> cases (o.holds v l s.run).1 <;>
    simp [shown, Ne.symm shown]

theorem guard_agrees_iff_of_two_symbols :
    let a : Identifier := ⟨"a", by decide⟩
    let b : Identifier := ⟨"b", by decide⟩
    let s : State := { context := [("a", .text "$b"), ("b", .text "hi")], run := ⟨⟨[], 0⟩, []⟩ }
    s.context.Leads "hi" a [b] ∧ s.context.Leads "hi" b [] ∧
      "no".toList.all isConditionChar = true ∧ "hi".toList.all isConditionChar = true ∧
      (({} : Script).evaluate "\x7b$a != no\x7d yes" s).1 = .ok (.ok "yes") ∧
      (({} : Script).evaluate "\x7b$b == hi\x7d yes" s).1 = .ok (.ok "yes") := by
  intro a b s
  let body : PlainWord := ⟨"yes", by decide, by decide⟩
  have leads : s.context.Leads "hi" a [b] := ⟨rfl, rfl⟩
  have alone : s.context.Leads "hi" b [] := rfl
  refine ⟨leads, alone, by decide, by decide, ?_, ?_⟩
  · exact (guard_agrees_iff {} s a [b] "hi" leads "!=" .notEqual (by decide) "no" (by decide)
      body (by decide)).2.mpr (by decide)
  · exact (guard_agrees_iff {} s b [] "hi" alone "==" .equal (by decide) "hi" (by decide)
      body (by decide)).2.mpr rfl

/-- A symbol that leads to a text is shown as this text, but a guard does not compare it. -/
theorem guard_compares_symbol :
    let a : Identifier := ⟨"a", by decide⟩
    let b : Identifier := ⟨"b", by decide⟩
    let s : State := { context := [("a", .text "$b"), ("b", .text "hi")], run := ⟨⟨[], 0⟩, []⟩ }
    s.context.Leads "hi" a [b] ∧ isUnfinished "hi" = false ∧
      (Operator.equal.holds "hi" "hi" s.run).1 = true ∧
      (({} : Script).evaluate "$a" s).1 = .ok (.ok "hi") ∧
      (({} : Script).evaluate "\x7b$a = hi\x7d yes" s).1 = .ok (.ok "") := by
  intro a b s
  exact ⟨⟨rfl, rfl⟩, by decide, by decide, by decide +kernel, by decide +kernel⟩

end TextGen.Script
