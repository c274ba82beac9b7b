import Mathlib
import TextGen.Proofs.Script.Guards
import TextGen.Proofs.Script.Reemission

/-! Lists of conditions.
Conditions that are written one after the other, with single blanks and with commas between them,
are read back one after the other. A blank after an operator keeps it apart from the signs of the
value, and the value goes up to the next comma or the brace. -/
namespace TextGen.Script

variable {rest : List Char} {c : Cursor}

/-- A condition as it is written. -/
def Condition.text (k : Condition) : String :=
  "$" ++ k.name ++ " " ++ k.operator.text ++ " " ++ k.value

/-- Conditions that are read as they are written: the name is a name, and the value has no blanks at
its ends and no sign at which it would end. -/
structure Condition.IsPlain (k : Condition) : Prop where
  named : isName k.name = true
  trimmed : Text.trimmed k.value = k.value
  inside : k.value.toList.all isConditionChar = true

def guardText (conditions : List Condition) : String :=
  "\x7b" ++ String.intercalate ", " (conditions.map Condition.text) ++ "\x7d"

theorem Operator.text_mem (o : Operator) : (o.text, o) ∈ spellings := by
  cases o <;> decide

theorem Condition.toList_text (k : Condition) (rest : List Char) :
    k.text.toList ++ rest = '$' :: (k.name.toList ++ ' ' :: (k.operator.text.toList ++ ' ' ::
      (k.value.toList ++ rest))) := by
  simp [Condition.text]

theorem Condition.IsPlain.exists_condition? {k : Condition} (plain : k.IsPlain) {stop : Char}
    (stopped : isConditionChar stop = false)
    (text : c.skipSpaces.rest = k.text.toList ++ stop :: rest) :
    ∃ next, condition? c = some (k, next) ∧ next.rest = stop :: rest := by
  rw [Condition.toList_text] at text
  obtain ⟨next, read, left⟩ := Script.exists_condition? ⟨k.name, plain.named⟩ k.operator.text_mem
    (List.all_eq_true.mp plain.inside) stopped text
  rw [String.ofList_toList, plain.trimmed] at read
  exact ⟨next, read, left⟩

def conditionsText (conditions : List Condition) : List Char :=
  (String.intercalate ", " (conditions.map Condition.text)).toList

theorem conditionsText_one (k : Condition) : conditionsText [k] = k.text.toList := by
  simp [conditionsText]

theorem conditionsText_cons (k l : Condition) (conditions : List Condition) :
    conditionsText (k :: l :: conditions) =
      k.text.toList ++ ',' :: ' ' :: conditionsText (l :: conditions) := by
  simp [conditionsText, String.intercalate_cons_cons]

theorem dropWhile_conditionsText (k : Condition) (conditions : List Condition) (rest : List Char) :
    (conditionsText (k :: conditions) ++ rest).dropWhile Cursor.isSpace =
      conditionsText (k :: conditions) ++ rest := by
  have solid : ∀ more, (k.text.toList ++ more).dropWhile Cursor.isSpace = k.text.toList ++ more := by
    intro more
    rw [Condition.toList_text, List.dropWhile_cons_of_neg (by decide)]
  cases conditions with
  | nil => rw [conditionsText_one, solid]
  | cons l conditions => rw [conditionsText_cons, List.append_assoc, solid]

/-- The induction is on the list. After a comma the conditions that are left are read from the blank
on, so the text is given behind the blanks of its line. -/
theorem exists_guard {conditions : List Condition} (some_ : conditions ≠ [])
    (plain : ∀ k ∈ conditions, k.IsPlain)
    (text : c.skipSpaces.rest = conditionsText conditions ++ '\x7d' :: rest) :
    ∃ r, guard c = .conditions r ∧ r.value = conditions ∧ r.next.rest = rest := by
  induction conditions generalizing c with
  | nil => exact absurd rfl some_
  | cons k conditions ih =>
    obtain ⟨first, others⟩ := List.forall_mem_cons.mp plain
    cases conditions with
    | nil =>
      rw [conditionsText_one] at text
      obtain ⟨next, read, left⟩ := first.exists_condition? (by decide) text
      have comma : next.after? ',' = none := by
        apply Cursor.after?_eq_none
        rw [left]
        rintro ⟨⟩
      obtain ⟨closed, brace, after⟩ := Cursor.exists_after? left
      obtain ⟨within, found⟩ := guard_of_brace read comma brace
      exact ⟨_, found, rfl, after⟩
    | cons l conditions =>
      rw [conditionsText_cons, List.append_assoc, List.cons_append] at text
      obtain ⟨next, read, left⟩ := first.exists_condition? (by decide) text
      obtain ⟨more, comma, after⟩ := Cursor.exists_after? left
      have later : more.skipSpaces.rest = conditionsText (l :: conditions) ++ '\x7d' :: rest := by
        change more.rest.dropWhile Cursor.isSpace = _
        rw [after, List.cons_append, List.dropWhile_cons_of_pos (by decide),
          dropWhile_conditionsText]
      obtain ⟨r, guarded, value, ended⟩ := ih (List.cons_ne_nil _ _) others later
      obtain ⟨within, whole⟩ := guard_of_comma read comma
      rw [guarded] at whole
      exact ⟨_, whole, congrArg (k :: ·) value, ended⟩

/-- A list of conditions that is written between braces is read as these conditions in their order,
which guard nothing. Signs of operators and of constructs may stand in the values. -/
theorem conditions_read_back (conditions : List Condition) (some_ : conditions ≠ [])
    (plain : ∀ k ∈ conditions, k.IsPlain) :
    Tree.ofText? (guardText conditions) = .ok [.guarded conditions []] := by
  obtain ⟨k, others, rfl⟩ := List.exists_cons_of_ne_nil some_
  have written : (guardText (k :: others)).toList =
      '\x7b' :: (conditionsText (k :: others) ++ ['\x7d']) := by
    simp [guardText, conditionsText]
  let opened : Cursor := ⟨['\x7b'], conditionsText (k :: others) ++ ['\x7d']⟩
  have text : opened.skipSpaces.rest = conditionsText (k :: others) ++ ['\x7d'] :=
    dropWhile_conditionsText k others _
  obtain ⟨r, guarded, value, ended⟩ := exists_guard some_ plain text
  have last : r.next.skipSpaces.rest = [] := by
    change r.next.rest.dropWhile Cursor.isSpace = _
    rw [ended, List.dropWhile_nil]
  have node : ReadsNode [] '\x7b' opened (.guarded r.value []) r.next.skipSpaces :=
    .guardAlone guarded (by simp [last])
  rw [value] at node
  exact ofText?_of_node written node last

theorem conditions_read_back_of_signs :
    let conditions : List Condition := [⟨"a", .equal, "= $b (c | \x7bd"⟩, ⟨"_x1", .less, "= 3"⟩,
      ⟨"b", .endsWith, "$=\t>"⟩, ⟨"c", .notEqual, ""⟩]
    (conditions ≠ [] ∧ ∀ k ∈ conditions, k.IsPlain) ∧
      Tree.ofText? "\x7b$a = = $b (c | \x7bd, $_x1 < = 3, $b $= $=\t>, $c != \x7d" =
        .ok [.guarded conditions []] := by
  intro conditions
  have plain : ∀ k ∈ conditions, k.IsPlain := by
    simp only [conditions, List.forall_mem_cons, List.not_mem_nil, false_implies, implies_true,
      and_true]
    exact ⟨⟨by decide, by decide, by decide⟩, ⟨by decide, by decide, by decide⟩,
      ⟨by decide, by decide, by decide⟩, ⟨by decide, by decide, by decide⟩⟩
  exact ⟨⟨List.cons_ne_nil _ _, plain⟩,
    conditions_read_back conditions (List.cons_ne_nil _ _) plain⟩

end TextGen.Script
