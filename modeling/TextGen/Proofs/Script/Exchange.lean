import Mathlib
import TextGen.Proofs.Script.Appending
import TextGen.Proofs.Script.Outcomes

/-! A dollar sign exchanged for an ampersand.
What is read before a dollar sign is read as before if an ampersand stands in its place. Neither sign
belongs to a name, to a chain or to plain text, and where a reader asks for a dollar sign and finds
an ampersand it takes what it has read for plain text, but then it did not end before the sign. -/
namespace TextGen.Script

/-- The same place in two texts, before the only sign in which they differ. -/
inductive Exchanged (tail : List Char) : Cursor → Cursor → Prop
  | intro (b front : List Char) : Exchanged tail ⟨b, front ++ '$' :: tail⟩ ⟨b, front ++ '&' :: tail⟩

def Cursor.IsBefore (tail : List Char) (c : Cursor) : Prop := '$' :: tail <:+ c.rest

abbrev ExchangedReading {α : Type} (tail : List Char) :
    Option (α × Cursor) → Option (α × Cursor) → Prop := AlikeReading (Exchanged tail)

variable {tail : List Char} {c c' next : Cursor}

theorem Cursor.IsBefore.of_suffix (h : next.IsBefore tail) (suffix : next.rest <:+ c.rest) :
    c.IsBefore tail := List.IsSuffix.trans h suffix

theorem Cursor.IsBefore.ne_tail (h : c.IsBefore tail) : ¬ c.rest <:+ tail := by
  intro past
  have longer := List.IsSuffix.length_le h
  have shorter := past.length_le
  simp only [List.length_cons] at longer
  omega

theorem tracks_exchanged (tail : List Char) : Tracks ['$', '&'] (Exchanged tail) where
  signs := by simp
  span := by
    rintro _ _ ⟨b, front⟩ test ends
    have dollar := ends '$' (by decide)
    have ampersand := ends '&' (by decide)
    simp only [Cursor.span, Text.takeWhile_append_stop _ _ dollar,
      Text.takeWhile_append_stop _ _ ampersand, Text.dropWhile_append_stop _ _ dollar,
      Text.dropWhile_append_stop _ _ ampersand]
    exact ⟨trivial, .intro _ _⟩
  after? := by
    rintro _ _ ⟨b, front⟩ sign other
    have dollar : '$' ≠ sign := fun same => other (by simp [← same])
    have ampersand : '&' ≠ sign := fun same => other (by simp [← same])
    cases front with
    | nil =>
      simp only [Cursor.after?, List.nil_append, dollar, ampersand, if_false]
      exact .none
    | cons x front =>
      simp only [Cursor.after?, List.cons_append]
      split
      · exact .some (.intro _ front)
      · exact .none

namespace Exchanged

/-- A run that could take the sign but ends before it. -/
theorem span_of_isBefore {test : Char → Bool} (h : Exchanged tail c c') (dollar : test '$' = true)
    (ahead : (c.span test).2.IsBefore tail) :
    (c'.span test).1 = (c.span test).1 ∧ Exchanged tail (c.span test).2 (c'.span test).2 := by
  obtain ⟨b, front⟩ := h
  cases left : front.dropWhile test with
  | nil =>
    refine absurd ?_ ahead.ne_tail
    simp only [Cursor.span, List.dropWhile_append, left, List.isEmpty_nil, if_true,
      List.dropWhile_cons_of_pos dollar]
    exact List.dropWhile_suffix test
  | cons x rest =>
    have stopped : front.dropWhile test ≠ [] := by simp [left]
    simp only [Cursor.span, Text.takeWhile_append_of_stopped stopped]
    exact ⟨trivial, .intro _ _⟩

theorem skipSpaces (h : Exchanged tail c c') : Exchanged tail c.skipSpaces c'.skipSpaces :=
  (tracks_exchanged tail).skipSpaces h

theorem after? (h : Exchanged tail c c') {sign : Char} (other : sign ∉ ['$', '&']) :
    Option.Rel (Exchanged tail) (c.after? sign) (c'.after? sign) :=
  (tracks_exchanged tail).after? h other

theorem target? (h : Exchanged tail c c') :
    ExchangedReading tail (Script.target? c) (Script.target? c') :=
  (tracks_exchanged tail).target? h

theorem chain (h : Exchanged tail c c') :
    (Script.chain c').value = (Script.chain c).value ∧
      Exchanged tail (Script.chain c).next (Script.chain c').next :=
  rel_chain (fun _ _ => (tracks_exchanged tail).segment?_of_free (by decide) (by decide)) h

theorem column (h : Exchanged tail c c') : c'.column = c.column := by
  obtain ⟨b, front⟩ := h
  rfl

theorem signColumn (h : Exchanged tail c c') : Script.signColumn c' = Script.signColumn c :=
  congrArg (· - 1) h.column

theorem afterStatement (h : Exchanged tail c c') (column : Nat) :
    Exchanged tail (Script.afterStatement column c) (Script.afterStatement column c') :=
  (tracks_exchanged tail).afterStatement h Iff.rfl

theorem plain (h : Exchanged tail c c') (stops : List Char) (first : Char) :
    (Script.plain stops first c').value = (Script.plain stops first c).value ∧
      Exchanged tail (Script.plain stops first c).next (Script.plain stops first c').next := by
  have ends : ['$', '&', '(', ')'].all (!isPlain stops ·) = true := by simp [isPlain, signs]
  have run := (tracks_exchanged tail).run h ends
  simp only [plain_value, plain_next, run.1]
  exact ⟨trivial, run.2⟩

/- Readers that may take the sign. -/

/-- The same reading, or none where the first one took the sign. -/
def SameOrGone {α : Type} (tail : List Char) (r r' : Option (α × Cursor)) : Prop :=
  ExchangedReading tail r r' ∨ r' = none ∧ ∀ x ∈ r, x.2.rest <:+ tail

/-- The same reading, or one past the sign that ends at the same place if it is a reading in both
texts. -/
inductive SameOrPast {α : Type} (tail : List Char) :
    Option (α × Cursor) → Option (α × Cursor) → Prop
  | same {r r' : Option (α × Cursor)} (h : ExchangedReading tail r r') : SameOrPast tail r r'
  | past {x : α × Cursor} {r' : Option (α × Cursor)} (passed : x.2.rest <:+ tail)
      (later : ∀ x' ∈ r', x'.2.rest = x.2.rest) : SameOrPast tail (some x) r'

section

variable {α β : Type} {r r' : Option (α × Cursor)} {v : α}

theorem SameOrGone.eq_none (h : SameOrGone tail r r') (none : r = none) : r' = .none := by
  subst none
  exact h.elim (eq_none_of_rel · rfl) And.left

theorem SameOrGone.bind {f : α × Cursor → Option (β × Cursor)} (h : SameOrGone tail r r')
    (step : ∀ v n n', Exchanged tail n n' → SameOrPast tail (f (v, n)) (f (v, n')))
    (shorter : ∀ x, ∀ y ∈ f x, y.2.rest <:+ x.2.rest) :
    SameOrPast tail (r.bind f) (r'.bind f) := by
  rcases h with same | ⟨rfl, passed⟩
  · cases same with
    | none => exact .same .none
    | some same =>
      rename_i x x'
      obtain ⟨v, n⟩ := x
      obtain ⟨v', n'⟩ := x'
      obtain ⟨rfl, exchanged⟩ := same
      exact step v n n' exchanged
  · cases r with
    | none => exact .same .none
    | some x =>
      cases found : f x with
      | none =>
        rw [Option.bind_some, found]
        exact .same .none
      | some y =>
        rw [Option.bind_some, found]
        exact .past ((shorter x y found).trans (passed x rfl)) nofun

theorem SameOrGone.sameOrPast (h : SameOrGone tail r r') : SameOrPast tail r r' := by
  rcases h with same | ⟨rfl, passed⟩
  · exact .same same
  · cases r with
    | none => exact .same .none
    | some x => exact .past (passed x rfl) nofun

theorem SameOrPast.exists_same (h : SameOrPast tail r r') (found : r = some (v, next))
    (ahead : next.IsBefore tail) : ∃ next', r' = some (v, next') ∧ Exchanged tail next next' := by
  cases h with
  | same same =>
    subst found
    exact same.exists_some rfl
  | past passed _ =>
    cases found
    exact absurd passed ahead.ne_tail

end

/-- A dollar sign that comes next is the same in both texts, or it is the one that is exchanged. -/
theorem bind_dollar {α : Type} (h : Exchanged tail c c') {f : Cursor → Option (α × Cursor)}
    (step : ∀ n n', Exchanged tail n n' → ExchangedReading tail (f n) (f n'))
    (shorter : ∀ n, ∀ r ∈ f n, r.2.rest <:+ n.rest) :
    SameOrGone tail ((c.after? '$').bind f) ((c'.after? '$').bind f) := by
  obtain ⟨b, front⟩ := h
  cases front with
  | nil => exact .inr ⟨rfl, shorter ⟨'$' :: b, tail⟩⟩
  | cons x front =>
    refine .inl ?_
    simp only [Cursor.after?, List.cons_append]
    split
    · exact step _ _ (.intro _ front)
    · exact .none

theorem inlineTarget? (h : Exchanged tail c c') :
    SameOrGone tail (Script.inlineTarget? c) (Script.inlineTarget? c') :=
  h.skipSpaces.bind_dollar (fun _ _ => Exchanged.target?)
    fun _ _ found => (Cursor.Reaches.of_scan .target? found).suffix

theorem nameAfter? (h : Exchanged tail c c') :
    SameOrGone tail (c.nameAfter? '$') (c'.nameAfter? '$') :=
  h.bind_dollar (fun _ _ => (tracks_exchanged tail).name?)
    fun _ _ found => (Cursor.Reaches.of_scan .name? found).suffix

/-- A spelling without the signs behind its first character is found before them or not at all. -/
theorem dropPrefix? {spelling : List Char} (x : Char) (front tail : List Char)
    (dollar : '$' ∉ spelling.tail) (ampersand : '&' ∉ spelling.tail) :
    Option.Rel (fun r r' => ∃ left, r = left ++ '$' :: tail ∧ r' = left ++ '&' :: tail)
      (Text.dropPrefix? spelling (x :: front ++ '$' :: tail))
      (Text.dropPrefix? spelling (x :: front ++ '&' :: tail)) := by
  cases spelling with
  | nil => exact .some ⟨x :: front, rfl, rfl⟩
  | cons a needle =>
    simp only [List.cons_append, Text.dropPrefix?]
    split
    · rw [Text.dropPrefix?_append_stop needle front tail dollar,
        Text.dropPrefix?_append_stop needle front tail ampersand]
      cases Text.dropPrefix? needle front with
      | none => exact .none
      | some left => exact .some ⟨left, rfl, rfl⟩
    · exact .none

theorem spelled {b front : List Char} {x : Char} (spellings : List (String × Operator))
    (without : ∀ s ∈ spellings, '$' ∉ s.1.toList.tail ∧ '&' ∉ s.1.toList.tail) :
    ExchangedReading tail
      (spellings.findSome? fun (spelling, o) =>
        (Text.dropPrefix? spelling.toList (x :: front ++ '$' :: tail)).map fun rest =>
          (o, ⟨spelling.toList.reverse ++ b, rest⟩))
      (spellings.findSome? fun (spelling, o) =>
        (Text.dropPrefix? spelling.toList (x :: front ++ '&' :: tail)).map fun rest =>
          (o, ⟨spelling.toList.reverse ++ b, rest⟩)) := by
  induction spellings with
  | nil => exact .none
  | cons s spellings ih =>
    obtain ⟨spelling, o⟩ := s
    have later := ih fun s mem => without s (List.mem_cons_of_mem _ mem)
    have first := without _ List.mem_cons_self
    have dropped := dropPrefix? x front tail first.1 first.2
    simp only [List.findSome?_cons]
    cases found : Text.dropPrefix? spelling.toList (x :: front ++ '$' :: tail) with
    | none =>
      rw [eq_none_of_rel dropped found]
      exact later
    | some rest =>
      obtain ⟨rest', found', left, rfl, rfl⟩ := exists_of_rel dropped found
      rw [found']
      exact .some ⟨rfl, .intro _ left⟩

theorem operator? (h : Exchanged tail c c') :
    SameOrGone tail (Script.operator? c) (Script.operator? c') := by
  obtain ⟨b, front⟩ := h
  cases front with
  | cons x front => exact .inl (spelled _ (by decide))
  | nil =>
    refine .inr ⟨rfl, ?_⟩
    rintro ⟨o, n⟩ found
    obtain ⟨⟨spelling, p⟩, mem, here⟩ := List.exists_of_findSome?_eq_some found
    obtain ⟨rest, dropped, same⟩ := Option.map_eq_some_iff.mp here
    cases same
    have whole := Text.dropPrefix?_eq_some_iff.mp dropped
    cases signs : spelling.toList with
    | nil =>
      have signed : ∀ s ∈ Operator.spellings, s.1.toList ≠ [] := by decide
      exact absurd signs (signed _ mem)
    | cons a needle =>
      rw [signs] at whole
      exact ⟨needle, (List.cons.inj whole).2.symm⟩

/-- A value of a condition takes the signs, and then it ends where the text that follows says. -/
theorem value {α : Type} (h : Exchanged tail c c') (f : List Char → α) :
    SameOrPast tail (some (f (c.span isConditionChar).1, (c.span isConditionChar).2))
      (some (f (c'.span isConditionChar).1, (c'.span isConditionChar).2)) := by
  by_cases ahead : (c.span isConditionChar).2.IsBefore tail
  · obtain ⟨same, exchanged⟩ := h.span_of_isBefore (by decide) ahead
    exact .same (.some ⟨congrArg f same.symm, exchanged⟩)
  · obtain ⟨b, front⟩ := h
    have taken : front.dropWhile isConditionChar = [] := by
      by_contra stopped
      refine ahead ⟨front.dropWhile isConditionChar, ?_⟩
      exact ((Text.takeWhile_append_of_stopped stopped _).2).symm
    have passed : ∀ sign, isConditionChar sign = true →
        (front ++ sign :: tail).dropWhile isConditionChar = tail.dropWhile isConditionChar := by
      intro sign passes
      rw [List.dropWhile_append, taken, List.isEmpty_nil, if_pos rfl,
        List.dropWhile_cons_of_pos passes]
    refine .past ?_ ?_
    · simp only [Cursor.span, passed '$' (by decide)]
      exact List.dropWhile_suffix _
    · rintro _ ⟨⟩
      simp only [Cursor.span, passed '$' (by decide), passed '&' (by decide)]

theorem condition? (h : Exchanged tail c c') :
    SameOrPast tail (Script.condition? c) (Script.condition? c') := by
  refine h.skipSpaces.nameAfter?.bind (fun name n n' named => ?_) ?_
  · simp only [Option.map_eq_bind]
    refine named.skipSpaces.operator?.bind (fun o s s' signed => ?_) ?_
    · exact signed.skipSpaces.value fun text =>
        Condition.mk name o (Text.trimmed (String.ofList text))
    · rintro x y ⟨⟩
      exact ((Cursor.Reaches.skipSpaces _).trans (.span isConditionChar _)).suffix
  · rintro x y found
    obtain ⟨z, signed, same⟩ := Option.map_eq_some_iff.mp found
    cases same
    have operator := Cursor.Reaches.of_scan .operator? signed
    have value := (Cursor.Reaches.skipSpaces z.2).trans (.span isConditionChar _)
    exact ((Cursor.Reaches.skipSpaces x.2).trans (operator.trans value)).suffix

/-- Where a list of conditions goes on, it does so for both conditions that end at the same place. -/
theorem exists_comma {mid mid' more : Cursor} (ends : mid'.rest = mid.rest)
    (comma : mid.after? ',' = some more) (none : conditions? more = none) :
    ∃ more', mid'.after? ',' = some more' ∧ conditions? more' = .none := by
  have text : mid'.rest = ',' :: more.rest := ends.trans (Cursor.rest_of_after? comma)
  obtain ⟨⟨b', rest'⟩, comma', left⟩ := Cursor.exists_after? text
  obtain rfl : rest' = more.rest := left
  exact ⟨_, comma', IsScan.conditions?.eq_none none⟩

/-- No conditions are found where none were. If what is not a condition goes past the sign, the text
behind it is the same. -/
theorem conditions?_eq_none {c c' : Cursor} (h : Exchanged tail c c')
    (none : conditions? c = none) : conditions? c' = .none := by
  have same := h.condition?
  cases found' : Script.condition? c' with
  | none => exact Script.conditions?_eq_none found'
  | some r' =>
    obtain ⟨k', mid'⟩ := r'
    cases found : Script.condition? c with
    | none =>
      rw [found, found'] at same
      cases same with
      | same same => cases same
    | some r =>
      obtain ⟨k, mid⟩ := r
      have shorter := condition?_length_lt found
      rw [found, found'] at same
      cases comma : mid.after? ',' with
      | none =>
        rw [conditions?_of_last found comma] at none
        cases none
      | some more =>
        have fewer := Cursor.after?_length comma
        rw [conditions?_of_comma found comma, Option.map_eq_none_iff] at none
        have later : ∃ more', mid'.after? ',' = some more' ∧ conditions? more' = .none := by
          cases same with
          | same same =>
            cases same with
            | some same =>
              obtain ⟨more', comma', past⟩ := exists_of_rel (same.2.after? (by decide)) comma
              exact ⟨more', comma', past.conditions?_eq_none none⟩
          | past _ ends => exact exists_comma (ends _ rfl) comma none
        obtain ⟨more', comma', none'⟩ := later
        rw [conditions?_of_comma found' comma', none']
        rfl
termination_by c.rest.length

theorem conditions? {c c' : Cursor} (h : Exchanged tail c c') {ks : List Condition} {next : Cursor}
    (found : conditions? c = some (some ks, next)) (ahead : next.IsBefore tail) :
    ∃ next', Script.conditions? c' = some (some ks, next') ∧ Exchanged tail next next' := by
  cases read : Script.condition? c with
  | none =>
    rw [Script.conditions?_eq_none read] at found
    cases found
  | some r =>
    obtain ⟨k, mid⟩ := r
    have shorter := condition?_length_lt read
    have same := h.condition?
    cases comma : mid.after? ',' with
    | some more =>
      have fewer := Cursor.after?_length comma
      rw [conditions?_of_comma read comma] at found
      obtain ⟨⟨inner, last⟩, here, equal⟩ := Option.map_eq_some_iff.mp found
      cases inner with
      | none => cases equal
      | some ks' =>
        cases equal
        have moreAhead : more.IsBefore tail :=
          ahead.of_suffix (Cursor.Reaches.of_scan .conditions? here).suffix
        have midAhead : mid.IsBefore tail :=
          moreAhead.of_suffix (Cursor.Reaches.after? comma).suffix
        obtain ⟨mid', read', exchanged⟩ := same.exists_same read midAhead
        obtain ⟨more', comma', past⟩ := exists_of_rel (exchanged.after? (by decide)) comma
        obtain ⟨next', here', last⟩ := past.conditions? here ahead
        refine ⟨next', ?_, last⟩
        rw [conditions?_of_comma read' comma', here']
        rfl
    | none =>
      rw [conditions?_of_last read comma] at found
      cases brace : mid.after? '\x7d' with
      | none =>
        rw [brace] at found
        cases found
      | some closed =>
        rw [brace] at found
        cases found
        have midAhead : mid.IsBefore tail := ahead.of_suffix (Cursor.Reaches.after? brace).suffix
        obtain ⟨mid', read', exchanged⟩ := same.exists_same read midAhead
        obtain ⟨closed', brace', past⟩ := exists_of_rel (exchanged.after? (by decide)) brace
        have comma' := eq_none_of_rel (exchanged.after? (by decide)) comma
        refine ⟨closed', ?_, past⟩
        rw [conditions?_of_last read' comma', brace']
termination_by c.rest.length

theorem guard_other (h : Exchanged tail c c') (other : guard c = .other) : guard c' = .other :=
  conditions?_eq_none_iff.mp (h.conditions?_eq_none (conditions?_eq_none_iff.mpr other))

theorem guard_conditions (h : Exchanged tail c c') {r : Parsed (List Condition) c.rest.length}
    (found : guard c = .conditions r) (ahead : r.next.IsBefore tail) :
    ∃ r', guard c' = .conditions r' ∧ r'.value = r.value ∧ Exchanged tail r.next r'.next := by
  obtain ⟨next', here, exchanged⟩ :=
    h.conditions? (conditions?_eq_some_iff.mpr ⟨r, found, rfl, rfl⟩) ahead
  obtain ⟨r', found', same, rfl⟩ := conditions?_eq_some_iff.mp here
  exact ⟨r', found', same, exchanged⟩

theorem dynamic (h : Exchanged tail c c') {stops : List Char} (dollar : '$' ∉ stops)
    (ahead : (dynamic stops c).next.IsBefore tail) :
    (Script.dynamic stops c').value = (Script.dynamic stops c).value ∧
      Exchanged tail (Script.dynamic stops c).next (Script.dynamic stops c').next := by
  cases target : Script.target? c with
  | none =>
    rw [dynamic_of_target?_eq_none stops target,
      dynamic_of_target?_eq_none stops (eq_none_of_rel h.target? target)]
    exact ⟨rfl, h⟩
  | some r =>
    obtain ⟨name, start⟩ := r
    obtain ⟨start', target', exchanged⟩ := h.target?.exists_some target
    obtain ⟨value, next⟩ := dynamic_of_target? stops target
    obtain ⟨value', next'⟩ := dynamic_of_target? stops target'
    rw [next] at ahead
    have passes : isSource stops '$' = true := by simpa [isSource] using dollar
    have source :=
      exchanged.span_of_isBefore passes (ahead.of_suffix (Cursor.Reaches.afterStatement _ _).suffix)
    rw [value, value', next, next', source.1, h.signColumn]
    exact ⟨rfl, source.2.afterStatement _⟩

end Exchanged

/- Readers of trees. -/

def closers : List Char := ['\n', '|', ')']

theorem not_mem_of_closers {stops : List Char} (closing : stops ⊆ closers) {sign : Char}
    (other : sign ∉ closers) : sign ∉ stops := fun mem => other (closing mem)

namespace Exchanged

theorem cons_cases (h : Exchanged tail c c') {first : Char} {rest : List Char}
    (text : c.rest = first :: rest) :
    (first = '$' ∧ rest = tail ∧ c'.rest = '&' :: tail) ∨
      ∃ rest', c'.rest = first :: rest' ∧
        Exchanged tail ⟨first :: c.before, rest⟩ ⟨first :: c'.before, rest'⟩ := by
  obtain ⟨b, front⟩ := h
  cases front with
  | nil =>
    obtain ⟨rfl, rfl⟩ := List.cons.inj text
    exact .inl ⟨rfl, rfl, rfl⟩
  | cons x front =>
    obtain ⟨rfl, rfl⟩ := List.cons.inj text
    exact .inr ⟨_, rfl, .intro _ front⟩

theorem eq_of_rest (h : Exchanged tail c c') (text : c.rest = '$' :: tail) :
    c' = ⟨c.before, '&' :: tail⟩ := by
  obtain ⟨b, front⟩ := h
  cases front with
  | nil => rfl
  | cons x front =>
    have longer := congrArg List.length text
    simp only [List.length_append, List.length_cons] at longer
    omega

theorem exists_cons (h : Exchanged tail c c') {first : Char} {rest : List Char}
    (text : c.rest = first :: rest) (ahead : '$' :: tail <:+ rest) :
    ∃ rest', c'.rest = first :: rest' ∧
      Exchanged tail ⟨first :: c.before, rest⟩ ⟨first :: c'.before, rest'⟩ := by
  refine (h.cons_cases text).resolve_left ?_
  rintro ⟨rfl, rfl, _⟩
  have past : (Cursor.mk c.before rest).IsBefore rest := ahead
  exact past.ne_tail List.suffix_rfl

theorem head?_closers (h : Exchanged tail c c') {stops : List Char} (closing : stops ⊆ closers)
    (last : ∀ first ∈ c.rest.head?, first = '\n' ∨ first ∈ stops) :
    c'.rest.head? = c.rest.head? := by
  obtain ⟨b, front⟩ := h
  cases front with
  | nil =>
    have ends := last '$' rfl
    exact absurd (ends.resolve_left (by decide)) (not_mem_of_closers closing (by decide))
  | cons x front => rfl

mutual

/-- A tree that ends before the sign is read in both texts. The induction is on the derivation, all
of whose parts end before the sign. -/
theorem reads : ∀ {stops : List Char} {c c' next : Cursor} {t : Tree}, Reads stops c t next →
    Exchanged tail c c' → stops ⊆ closers → next.IsBefore tail →
    ∃ next', Reads stops c' t next' ∧ Exchanged tail next next'
  | _, _, _, _, _, .done, _, _, ahead => absurd ahead (by simp [Cursor.IsBefore])
  | _, _, ⟨_, _⟩, _, _, .stop mem, h, closing, _ => by
    rcases h.cons_cases rfl with ⟨rfl, _, _⟩ | ⟨rest', rfl, _⟩
    · exact absurd mem (not_mem_of_closers closing (by decide))
    · exact ⟨_, .stop mem, h⟩
  | _, _, ⟨_, _⟩, _, _, .cons other head tail, h, closing, ahead => by
    have midAhead := ahead.of_suffix (suffix_of_reads tail)
    obtain ⟨rest', rfl, inside⟩ :=
      h.exists_cons rfl (List.IsSuffix.trans midAhead (suffix_of_readsNode head))
    obtain ⟨mid', head', past⟩ := readsNode head inside closing midAhead
    obtain ⟨next', tail', last⟩ := reads tail past closing ahead
    exact ⟨next', .cons other head' tail', last⟩

theorem readsNode : ∀ {stops : List Char} {first : Char} {c c' next : Cursor} {n : Node},
    ReadsNode stops first c n next → Exchanged tail c c' → stops ⊆ closers → next.IsBefore tail →
    ∃ next', ReadsNode stops first c' n next' ∧ Exchanged tail next next'
  | _, _, _, c', _, _, .newline, h, _, _ => ⟨c', .newline, h⟩
  | _, _, _, _, _, _, .assign target value, h, closing, ahead => by
    obtain ⟨equals', target', begun⟩ := h.target?.exists_some target
    obtain ⟨next', value', past⟩ := reads value begun.skipSpaces
      (List.cons_subset.mpr ⟨by decide, closing⟩)
      (ahead.of_suffix (Cursor.Reaches.afterStatement _ _).suffix)
    refine ⟨_, ?_, past.afterStatement _⟩
    rw [← h.signColumn]
    exact .assign target' value'
  | _, _, _, _, _, _, .symbol target named, h, _, _ => by
    obtain ⟨next', named', begun⟩ := ((tracks_exchanged _).name? h).exists_some named
    refine ⟨_, ?_, begun.chain.2⟩
    rw [← begun.chain.1]
    exact .symbol (eq_none_of_rel h.target? target) named'
  | _, _, _, c', _, _, .dollar named, h, _, _ =>
    ⟨c', .dollar (eq_none_of_rel ((tracks_exchanged _).name? h) named), h⟩
  | stops, _, _, c', _, _, .dynamic _, h, closing, ahead => by
    have same := h.dynamic (not_mem_of_closers closing (by decide)) ahead
    refine ⟨_, ?_, same.2⟩
    rw [← same.1]
    exact readsNode_dynamic stops c'
  | _, _, _, c', _, _, .ampersand target, h, _, _ =>
    ⟨c', .ampersand (eq_none_of_rel h.target? target), h⟩
  | _, _, _, _, _, _, .pair shut, h, _, _ => by
    obtain ⟨closed', shut', past⟩ := exists_of_rel (h.after? (by decide)) shut
    exact ⟨closed', .pair shut', past⟩
  | _, _, _, _, _, _, .inlineAssign opened target value close, h, _, ahead => by
    have closedAhead := ahead.of_suffix (Cursor.Reaches.chain _).suffix
    have nextAhead := closedAhead.of_suffix (Cursor.Reaches.after? close).suffix
    have equalsAhead := nextAhead.of_suffix
      ((suffix_of_reads value).trans (Cursor.Reaches.skipSpaces _).suffix)
    obtain ⟨equals', target', begun⟩ := h.inlineTarget?.sameOrPast.exists_same target equalsAhead
    obtain ⟨next', value', past⟩ := reads value begun.skipSpaces (by decide) nextAhead
    obtain ⟨closed', close', last⟩ := exists_of_rel (past.after? (by decide)) close
    refine ⟨_, ?_, last.chain.2⟩
    rw [← last.chain.1, ← h.skipSpaces.column]
    exact .inlineAssign (eq_none_of_rel (h.after? (by decide)) opened) target' value' close'
  | _, _, _, _, _, _, .choice opened target body, h, _, ahead => by
    have closedAhead := ahead.of_suffix (Cursor.Reaches.chain _).suffix
    obtain ⟨closed', body', past⟩ := readsAlternatives body h closedAhead
    refine ⟨_, ?_, past.chain.2⟩
    rw [← past.chain.1]
    exact .choice (eq_none_of_rel (h.after? (by decide)) opened) (h.inlineTarget?.eq_none target)
      body'
  | _, _, _, c', _, _, .brace other, h, _, _ => ⟨c', .brace (h.guard_other other), h⟩
  | _, _, _, _, _, _, .guardAlone found last, h, closing, ahead => by
    obtain ⟨r', found', same, past⟩ :=
      h.guard_conditions found (ahead.of_suffix (Cursor.Reaches.skipSpaces _).suffix)
    have spaced := past.skipSpaces
    refine ⟨_, ?_, spaced⟩
    rw [← same]
    rw [← spaced.head?_closers closing last] at last
    exact .guardAlone found' last
  | _, _, _, _, _, _, .guarded found more line other body, h, closing, ahead => by
    have bodyAhead := List.IsSuffix.trans ahead (suffix_of_readsNode body)
    have spacedAhead : Cursor.IsBefore _ _ :=
      List.IsSuffix.trans bodyAhead (more ▸ List.suffix_cons _ _)
    obtain ⟨r', found', same, past⟩ :=
      h.guard_conditions found (spacedAhead.of_suffix (Cursor.Reaches.skipSpaces _).suffix)
    obtain ⟨rest', more', inside⟩ := past.skipSpaces.exists_cons more bodyAhead
    obtain ⟨next', body', last⟩ := readsNode body inside closing ahead
    refine ⟨next', ?_, last⟩
    rw [← same]
    exact .guarded found' more' line other body'
  | _, _, _, c', _, _, .close, h, _, _ => ⟨c', .close, h⟩
  | _, _, _, c', _, _, .bar, h, _, _ => ⟨c', .bar, h⟩
  | stops, first, _, _, _, _, .plain other, h, _, _ => by
    have same := h.plain stops first
    refine ⟨_, ?_, same.2⟩
    rw [← same.1]
    exact .plain other

theorem readsAlternatives : ∀ {c c' closed : Cursor} {found : List Alternative},
    ReadsAlternatives c found closed → Exchanged tail c c' → closed.IsBefore tail →
    ∃ closed', ReadsAlternatives c' found closed' ∧ Exchanged tail closed closed'
  | _, _, _, _, .more head bar tail, h, ahead => by
    have startAhead := ahead.of_suffix ((List.suffix_cons _ _).trans (suffix_of_readsAlternatives tail))
    have nextAhead := startAhead.of_suffix (Cursor.Reaches.after? bar).suffix
    obtain ⟨next', head', past⟩ := reads head h (by decide) nextAhead
    obtain ⟨start', bar', goesOn⟩ := exists_of_rel (past.after? (by decide)) bar
    obtain ⟨closed', tail', last⟩ := readsAlternatives tail goesOn ahead
    exact ⟨closed', .more head' bar' tail', last⟩
  | _, _, _, _, .last head bar close, h, ahead => by
    have nextAhead := ahead.of_suffix (Cursor.Reaches.after? close).suffix
    obtain ⟨next', head', past⟩ := reads head h (by decide) nextAhead
    obtain ⟨closed', close', last⟩ := exists_of_rel (past.after? (by decide)) close
    exact ⟨closed', .last head' (eq_none_of_rel (past.after? (by decide)) bar) close', last⟩

end

end Exchanged

end TextGen.Script
