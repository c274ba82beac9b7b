import Mathlib
import TextGen.Proofs.Script.Literal
import TextGen.Proofs.Text.Runs

/-! Readers at related places.
The readers that make no trees go by runs of characters and by single signs. So if a relation between
places of two texts is kept over runs and signs, then each of them reads the same at related places,
up to related places. The two texts may differ at signs that no such reader takes. -/
namespace TextGen.Script

/- What may be missing. -/

section

variable {α α' β β' : Type} {P : α → α' → Prop} {Q : β → β' → Prop} {a : Option α} {a' : Option α'}

theorem rel_bind {f : α → Option β} {f' : α' → Option β'} (h : Option.Rel P a a')
    (step : ∀ x x', P x x' → Option.Rel Q (f x) (f' x')) : Option.Rel Q (a.bind f) (a'.bind f') := by
  cases h with
  | none => exact .none
  | some related => exact step _ _ related

theorem rel_map {f : α → β} {f' : α' → β'} (h : Option.Rel P a a')
    (step : ∀ x x', P x x' → Q (f x) (f' x')) : Option.Rel Q (a.map f) (a'.map f') := by
  cases h with
  | none => exact .none
  | some related => exact .some (step _ _ related)

theorem rel_or {b : Option α} {b' : Option α'} (h : Option.Rel P a a') (other : Option.Rel P b b') :
    Option.Rel P (a.or b) (a'.or b') := by
  cases h with
  | none => exact other
  | some related => exact .some related

theorem exists_of_rel {x : α} (h : Option.Rel P a a') (found : a = some x) :
    ∃ x', a' = some x' ∧ P x x' := by
  subst found
  cases h with
  | some related => exact ⟨_, rfl, related⟩

theorem eq_none_of_rel (h : Option.Rel P a a') (none : a = none) : a' = .none := by
  subst none
  cases h
  rfl

end

abbrev AlikeReading {α : Type} (R : Cursor → Cursor → Prop) :
    Option (α × Cursor) → Option (α × Cursor) → Prop :=
  Option.Rel fun r r' => r.1 = r'.1 ∧ R r.2 r'.2

namespace AlikeReading

variable {α β : Type} {R : Cursor → Cursor → Prop} {a a' : Option (α × Cursor)}

theorem map (h : AlikeReading R a a') (g : α → β) :
    AlikeReading R (a.map fun r => (g r.1, r.2)) (a'.map fun r => (g r.1, r.2)) :=
  rel_map h fun _ _ same => ⟨congrArg g same.1, same.2⟩

theorem exists_some (h : AlikeReading R a a') {v : α} {next : Cursor} (found : a = some (v, next)) :
    ∃ next', a' = some (v, next') ∧ R next next' := by
  obtain ⟨⟨_, next'⟩, found', rfl, related⟩ := exists_of_rel h found
  exact ⟨next', found', related⟩

end AlikeReading

/-- A relation that is kept over every run that ends at the barred signs, and over every other
sign. -/
structure Tracks (barred : List Char) (R : Cursor → Cursor → Prop) : Prop where
  signs : barred ⊆ ['$', '&', '(', ')']
  span {c c' : Cursor} (h : R c c') {test : Char → Bool} (ends : ∀ x ∈ barred, test x = false) :
    (c'.span test).1 = (c.span test).1 ∧ R (c.span test).2 (c'.span test).2
  after? {c c' : Cursor} (h : R c c') {sign : Char} (other : sign ∉ barred) :
    Option.Rel R (c.after? sign) (c'.after? sign)

/- Chains and guards by their parts. -/

section

variable {c : Cursor}

theorem chain_of_segment?_eq_none (h : segment? c = none) :
    (chain c).value = [] ∧ (chain c).next = c := by
  rw [chain]
  split
  · exact ⟨rfl, rfl⟩
  · rename_i found
    cases h.symm.trans found

theorem chain_of_segment? {s : Segment} {next : Cursor} (h : segment? c = some (s, next)) :
    (chain c).value = s :: (chain next).value ∧ (chain c).next = (chain next).next := by
  rw [chain]
  split
  · rename_i found
    cases h.symm.trans found
  · rename_i found
    cases h.symm.trans found
    exact ⟨rfl, rfl⟩

theorem guard_of_condition?_eq_none (h : condition? c = none) : guard c = .other := by
  rw [guard]
  split
  · rfl
  · rename_i found
    cases h.symm.trans found

theorem guard_of_comma {k : Condition} {next more : Cursor} (h : condition? c = some (k, next))
    (comma : next.after? ',' = some more) :
    ∃ le : more.rest.length ≤ c.rest.length, guard c = (guard more).add k le := by
  have first := condition?_length_lt h
  have second := Cursor.after?_length comma
  refine ⟨by omega, ?_⟩
  rw [guard]
  split
  · rename_i found
    cases h.symm.trans found
  · rename_i found
    cases h.symm.trans found
    split
    · rename_i found
      cases comma.symm.trans found
      rfl
    · rename_i found
      cases comma.symm.trans found

theorem guard_of_brace {k : Condition} {next closed : Cursor} (h : condition? c = some (k, next))
    (comma : next.after? ',' = none) (brace : next.after? '\x7d' = some closed) :
    ∃ le : closed.rest.length ≤ c.rest.length, guard c = .conditions ⟨[k], closed, le⟩ := by
  have first := condition?_length_lt h
  have second := Cursor.after?_length brace
  refine ⟨by omega, ?_⟩
  rw [guard]
  split
  · rename_i found
    cases h.symm.trans found
  · rename_i found
    cases h.symm.trans found
    split
    · rename_i found
      cases comma.symm.trans found
    · split
      · rename_i found
        cases brace.symm.trans found
        rfl
      · rename_i found
        cases brace.symm.trans found

theorem guard_eq_unclosed {k : Condition} {next : Cursor} (h : condition? c = some (k, next))
    (comma : next.after? ',' = none) (brace : next.after? '\x7d' = none) : guard c = .unclosed := by
  rw [guard]
  split
  · rename_i found
    cases h.symm.trans found
  · rename_i found
    cases h.symm.trans found
    split
    · rename_i found
      cases comma.symm.trans found
    · split
      · rename_i found
        cases brace.symm.trans found
      · rfl

end

inductive SameGuard (R : Cursor → Cursor → Prop) {b b' : Nat} : Guard b → Guard b' → Prop
  | conditions {r : Parsed (List Condition) b} {r' : Parsed (List Condition) b'}
      (value : r.value = r'.value) (next : R r.next r'.next) :
      SameGuard R (.conditions r) (.conditions r')
  | unclosed : SameGuard R .unclosed .unclosed
  | other : SameGuard R .other .other

theorem SameGuard.add {R : Cursor → Cursor → Prop} {b b' d d' : Nat} {g : Guard b} {g' : Guard b'}
    (h : SameGuard R g g') (k : Condition) (le : b ≤ d) (le' : b' ≤ d') :
    SameGuard R (g.add k le) (g'.add k le') := by
  cases h with
  | conditions value next => exact .conditions (congrArg (k :: ·) value) next
  | unclosed => exact .unclosed
  | other => exact .other

theorem SameGuard.eq_other {R : Cursor → Cursor → Prop} {b b' : Nat} {g : Guard b} {g' : Guard b'}
    (h : SameGuard R g g') (other : g = .other) : g' = .other := by
  subst other
  cases h
  rfl

theorem SameGuard.exists_conditions {R : Cursor → Cursor → Prop} {b b' : Nat} {g : Guard b}
    {g' : Guard b'} (h : SameGuard R g g') {r : Parsed (List Condition) b}
    (found : g = .conditions r) : ∃ r', g' = .conditions r' ∧ r'.value = r.value ∧ R r.next r'.next := by
  subst found
  cases h with
  | conditions value next => exact ⟨_, rfl, value.symm, next⟩

theorem name?_eq_bind_head? (c : Cursor) :
    c.name? = (c.span Cursor.isNameChar).1.head?.bind fun first =>
      if Cursor.isNameStart first then
        some (String.ofList (c.span Cursor.isNameChar).1, (c.span Cursor.isNameChar).2)
      else none := by
  obtain ⟨b, rest⟩ := c
  cases rest with
  | nil => rfl
  | cons first rest =>
    by_cases start : Cursor.isNameStart first = true
    · have letter := Cursor.isNameChar_of_isNameStart start
      simp [Cursor.name?, Cursor.span, start, letter]
    · by_cases letter : Cursor.isNameChar first = true <;>
        simp [Cursor.name?, Cursor.span, start, letter]

theorem dropPrefix?_cons (x : Char) (needle : List Char) (c : Cursor) :
    ((Text.dropPrefix? (x :: needle) c.rest).map fun rest =>
        Cursor.mk ((x :: needle).reverse ++ c.before) rest) =
      (c.after? x).bind fun next => (Text.dropPrefix? needle next.rest).map fun rest =>
        Cursor.mk (needle.reverse ++ next.before) rest := by
  obtain ⟨b, rest⟩ := c
  cases rest with
  | nil => rfl
  | cons y rest =>
    by_cases same : x = y
    · subst same
      simp [Text.dropPrefix?, Cursor.after?]
    · simp [Text.dropPrefix?, Cursor.after?, same, Ne.symm same]

namespace Tracks

variable {barred : List Char} {R : Cursor → Cursor → Prop} {c c' : Cursor}

theorem not_mem (f : Tracks barred R) {sign : Char} (other : sign ∉ ['$', '&', '(', ')']) :
    sign ∉ barred := fun mem => other (f.signs mem)

theorem run (f : Tracks barred R) (h : R c c') {test : Char → Bool}
    (ends : ['$', '&', '(', ')'].all (!test ·) = true) :
    (c'.span test).1 = (c.span test).1 ∧ R (c.span test).2 (c'.span test).2 :=
  f.span h fun x mem => by simpa using List.all_eq_true.mp ends x (f.signs mem)

theorem skipSpaces (f : Tracks barred R) (h : R c c') : R c.skipSpaces c'.skipSpaces :=
  (f.run h (by decide)).2

theorem name? (f : Tracks barred R) (h : R c c') : AlikeReading R c.name? c'.name? := by
  have run : (c'.span Cursor.isNameChar).1 = (c.span Cursor.isNameChar).1 ∧
      R (c.span Cursor.isNameChar).2 (c'.span Cursor.isNameChar).2 := f.run h (by decide)
  rw [name?_eq_bind_head?, name?_eq_bind_head?, run.1]
  cases (c.span Cursor.isNameChar).1.head? with
  | none => exact .none
  | some first =>
    simp only [Option.bind_some]
    split
    · exact .some ⟨rfl, run.2⟩
    · exact .none

theorem nameAfter? (f : Tracks barred R) (h : R c c') {sign : Char} (other : sign ∉ barred) :
    AlikeReading R (c.nameAfter? sign) (c'.nameAfter? sign) :=
  rel_bind (f.after? h other) fun _ _ => f.name?

theorem assigned? (f : Tracks barred R) (h : R c c') : Option.Rel R c.assigned? c'.assigned? := by
  have equals {c c' : Cursor} (h : R c c') : Option.Rel R (c.after? '=') (c'.after? '=') :=
    f.after? h (f.not_mem (by decide))
  have double (c : Cursor) : c.rest.head? = some '=' ↔ (c.after? '=').isSome := by
    unfold Cursor.after?
    cases c.rest with
    | nil => simp
    | cons first rest => by_cases same : first = '=' <;> simp [same]
  refine rel_bind (equals h) fun next next' related => ?_
  have same : (next'.after? '=').isSome = (next.after? '=').isSome := by
    have later := equals related
    generalize next.after? '=' = a at later ⊢
    generalize next'.after? '=' = a' at later ⊢
    cases later <;> rfl
  simp only [double, same]
  split
  · exact .none
  · exact .some related

theorem target? (f : Tracks barred R) (h : R c c') :
    AlikeReading R (Script.target? c) (Script.target? c') := by
  refine rel_bind (f.name? h) fun read read' same => ?_
  refine rel_map (f.assigned? (f.skipSpaces same.2)) fun next next' related => ?_
  exact ⟨same.1, related⟩

theorem inlineTarget? (f : Tracks barred R) (h : R c c') (dollar : '$' ∉ barred) :
    AlikeReading R (Script.inlineTarget? c) (Script.inlineTarget? c') :=
  rel_bind (f.after? (f.skipSpaces h) dollar) fun _ _ => f.target?

theorem segment? (f : Tracks barred R) (h : R c c')
    (pair : ∀ name next next', c.nameAfter? '.' = some (name, next) → R next next' →
      Option.Rel R ((next.after? '(').bind (·.after? ')')) ((next'.after? '(').bind (·.after? ')'))) :
    AlikeReading R (Script.segment? c) (Script.segment? c') := by
  have named := f.nameAfter? h (f.not_mem (show '.' ∉ _ by decide))
  unfold Script.segment?
  cases found : c.nameAfter? '.' with
  | none =>
    rw [eq_none_of_rel named found]
    exact .none
  | some read =>
    obtain ⟨name, next⟩ := read
    obtain ⟨next', found', related⟩ := named.exists_some found
    have called := pair name next next' found related
    rw [found']
    refine .some ?_
    cases shut : (next.after? '(').bind (·.after? ')') with
    | none =>
      simp only [shut, eq_none_of_rel called shut]
      exact ⟨trivial, related⟩
    | some closed =>
      obtain ⟨closed', shut', past⟩ := exists_of_rel called shut
      simp only [shut, shut']
      exact ⟨trivial, past⟩

theorem segment?_of_free (f : Tracks barred R) (opening : '(' ∉ barred) (closing : ')' ∉ barred)
    (h : R c c') : AlikeReading R (Script.segment? c) (Script.segment? c') :=
  f.segment? h fun _ _ _ _ related =>
    rel_bind (f.after? related opening) fun _ _ opened => f.after? opened closing

theorem skipLineEnd (f : Tracks barred R) (h : R c c') : R c.skipLineEnd c'.skipLineEnd := by
  have line := f.after? h (f.not_mem (show '\n' ∉ _ by decide))
  unfold Cursor.skipLineEnd
  generalize c.after? '\n' = a at line ⊢
  generalize c'.after? '\n' = a' at line ⊢
  cases line with
  | none => exact h
  | some related => exact related

theorem afterStatement (f : Tracks barred R) (h : R c c') {column column' : Nat}
    (start : column = 0 ↔ column' = 0) :
    R (Script.afterStatement column c) (Script.afterStatement column' c') := by
  unfold Script.afterStatement
  by_cases line : column = 0
  · rw [if_pos line, if_pos (start.mp line)]
    exact f.skipLineEnd h
  · rw [if_neg line, if_neg fun line' => line (start.mpr line')]
    exact h

theorem dropPrefix? (f : Tracks barred R) {needle : List Char} (free : ∀ x ∈ barred, x ∉ needle)
    (h : R c c') :
    Option.Rel R
      ((Text.dropPrefix? needle c.rest).map fun rest => Cursor.mk (needle.reverse ++ c.before) rest)
      ((Text.dropPrefix? needle c'.rest).map fun rest =>
        Cursor.mk (needle.reverse ++ c'.before) rest) := by
  induction needle generalizing c c' with
  | nil => exact .some h
  | cons x needle ih =>
    rw [dropPrefix?_cons, dropPrefix?_cons]
    have first : x ∉ barred := fun mem => free x mem List.mem_cons_self
    have others : ∀ y ∈ barred, y ∉ needle := fun y mem => mt (List.mem_cons_of_mem x) (free y mem)
    exact rel_bind (f.after? h first) fun _ _ => ih others

theorem findSome?_spelling (f : Tracks barred R) (h : R c c') (spellings : List (String × Operator))
    (free : ∀ s ∈ spellings, ∀ x ∈ barred, x ∉ s.1.toList) :
    AlikeReading R
      (spellings.findSome? fun (spelling, o) =>
        (Text.dropPrefix? spelling.toList c.rest).map fun rest =>
          (o, ⟨spelling.toList.reverse ++ c.before, rest⟩))
      (spellings.findSome? fun (spelling, o) =>
        (Text.dropPrefix? spelling.toList c'.rest).map fun rest =>
          (o, ⟨spelling.toList.reverse ++ c'.before, rest⟩)) := by
  induction spellings with
  | nil => exact .none
  | cons s spellings ih =>
    obtain ⟨first, others⟩ := List.forall_mem_cons.mp free
    have later := ih others
    have dropped := f.dropPrefix? first h
    simp only [List.findSome?_cons]
    generalize Text.dropPrefix? s.1.toList c.rest = a at dropped ⊢
    generalize Text.dropPrefix? s.1.toList c'.rest = a' at dropped ⊢
    cases a with
    | none =>
      rw [Option.map_eq_none_iff.mp (eq_none_of_rel dropped rfl)]
      exact later
    | some rest =>
      obtain ⟨_, found, related⟩ := exists_of_rel dropped rfl
      obtain ⟨rest', rfl, rfl⟩ := Option.map_eq_some_iff.mp found
      exact .some ⟨rfl, related⟩

theorem operator? (f : Tracks barred R) (h : R c c')
    (free : ∀ s ∈ Operator.spellings, ∀ x ∈ barred, x ∉ s.1.toList) :
    AlikeReading R (Script.operator? c) (Script.operator? c') :=
  f.findSome?_spelling h _ free

theorem condition? (f : Tracks barred R) (h : R c c') (dollar : '$' ∉ barred)
    (free : ∀ s ∈ Operator.spellings, ∀ x ∈ barred, x ∉ s.1.toList)
    (value : ∀ n n', R n n' →
      (∃ k, Script.condition? c = some (k, (n.span isConditionChar).2)) →
      (n'.span isConditionChar).1 = (n.span isConditionChar).1 ∧
        R (n.span isConditionChar).2 (n'.span isConditionChar).2) :
    AlikeReading R (Script.condition? c) (Script.condition? c') := by
  have named := f.nameAfter? (f.skipSpaces h) dollar
  unfold Script.condition? at value ⊢
  cases found : c.skipSpaces.nameAfter? '$' with
  | none =>
    rw [eq_none_of_rel named found]
    exact .none
  | some read =>
    rw [found, Option.bind_some] at value
    obtain ⟨read', found', same, related⟩ := exists_of_rel named found
    rw [found', Option.bind_some, Option.bind_some]
    have signed := f.operator? (f.skipSpaces related) free
    cases sign : Script.operator? read.2.skipSpaces with
    | none =>
      simp only [sign, eq_none_of_rel signed sign]
      exact .none
    | some after =>
      obtain ⟨after', sign', sameSign, past⟩ := exists_of_rel signed sign
      simp only [sign, Option.map_some, Option.some.injEq] at value
      have ends := value _ _ (f.skipSpaces past) ⟨_, rfl⟩
      simp only [sign, sign', Option.map_some]
      refine .some ⟨?_, ends.2⟩
      rw [same, sameSign, ends.1]

end Tracks

section

variable {R : Cursor → Cursor → Prop}

theorem rel_chain (step : ∀ c c', R c c' → AlikeReading R (segment? c) (segment? c'))
    {c c' : Cursor} (h : R c c') :
    (chain c').value = (chain c).value ∧ R (chain c).next (chain c').next := by
  have same := step c c' h
  cases found : segment? c with
  | none =>
    have none := eq_none_of_rel same found
    rw [(chain_of_segment?_eq_none found).1, (chain_of_segment?_eq_none found).2,
      (chain_of_segment?_eq_none none).1, (chain_of_segment?_eq_none none).2]
    exact ⟨rfl, h⟩
  | some read =>
    obtain ⟨s, next⟩ := read
    obtain ⟨next', found', related⟩ := same.exists_some found
    have shorter := segment?_length_lt found
    have later := rel_chain step related
    rw [(chain_of_segment? found).1, (chain_of_segment? found).2, (chain_of_segment? found').1,
      (chain_of_segment? found').2, later.1]
    exact ⟨rfl, later.2⟩
termination_by c.rest.length

/-- Guards are alike where conditions are, at all places that the reader of guards comes to. -/
theorem rel_guard {barred : List Char} (f : Tracks barred R) {P : Cursor → Prop}
    (step : ∀ c c', R c c' → P c → AlikeReading R (condition? c) (condition? c'))
    (goesOn : ∀ c k next more, P c → condition? c = some (k, next) → next.after? ',' = some more →
      P more)
    {c c' : Cursor} (h : R c c') (here : P c) : SameGuard R (guard c) (guard c') := by
  have same := step c c' h here
  cases found : condition? c with
  | none =>
    rw [guard_of_condition?_eq_none found, guard_of_condition?_eq_none (eq_none_of_rel same found)]
    exact .other
  | some read =>
    obtain ⟨k, next⟩ := read
    obtain ⟨next', found', related⟩ := same.exists_some found
    have comma := f.after? related (f.not_mem (show ',' ∉ _ by decide))
    cases more : next.after? ',' with
    | some start =>
      obtain ⟨start', more', past⟩ := exists_of_rel comma more
      have first := condition?_length_lt found
      have second := Cursor.after?_length more
      obtain ⟨le, whole⟩ := guard_of_comma found more
      obtain ⟨le', whole'⟩ := guard_of_comma found' more'
      rw [whole, whole']
      exact (rel_guard f step goesOn past (goesOn _ _ _ _ here found more)).add k le le'
    | none =>
      have more' := eq_none_of_rel comma more
      have brace := f.after? related (f.not_mem (show '\x7d' ∉ _ by decide))
      cases closing : next.after? '\x7d' with
      | none =>
        rw [guard_eq_unclosed found more closing,
          guard_eq_unclosed found' more' (eq_none_of_rel brace closing)]
        exact .unclosed
      | some closed =>
        obtain ⟨closed', closing', past⟩ := exists_of_rel brace closing
        obtain ⟨_, whole⟩ := guard_of_brace found more closing
        obtain ⟨_, whole'⟩ := guard_of_brace found' more' closing'
        rw [whole, whole']
        exact .conditions rfl past
termination_by c.rest.length

end

end TextGen.Script
