import Mathlib
import TextGen.Proofs.Script.Clear
import TextGen.Proofs.Script.Columns
import TextGen.Proofs.Script.Outcomes
import TextGen.Proofs.Script.Wider

/-! A script between parentheses.
A text that is put in front of a closing parenthesis is read as before if the signs that close or
part alternatives stand in it only within constructs of its own. Its columns may differ, but not
where a line starts. -/
namespace TextGen.Script

variable {stops extra : List Char} {first : Char}

/- Sources of values. -/

theorem takeWhile_of_run {p q : Char → Bool} (weaker : ∀ c, q c = true → p c = true)
    (text : List Char) (run : ∀ c ∈ text.takeWhile p, q c = true) :
    text.takeWhile q = text.takeWhile p ∧ text.dropWhile q = text.dropWhile p := by
  induction text with
  | nil => exact ⟨rfl, rfl⟩
  | cons c text ih =>
    simp only [List.takeWhile_cons, List.dropWhile_cons] at run ⊢
    by_cases passes : p c = true
    · rw [if_pos passes] at run
      have first := run c List.mem_cons_self
      have later := ih fun x mem => run x (List.mem_cons_of_mem _ mem)
      rw [if_pos passes, if_pos passes, if_pos first, if_pos first, later.1, later.2]
      exact ⟨rfl, rfl⟩
    · have fails : q c ≠ true := fun first => passes (weaker c first)
      rw [if_neg passes, if_neg passes, if_neg fails, if_neg fails]
      exact ⟨rfl, rfl⟩

def isSource (stops : List Char) (c : Char) : Bool := c ≠ '\n' && !stops.contains c

theorem dynamic_of_target? (stops : List Char) {c start : Cursor} {name : String}
    (target : target? c = some (name, start)) :
    (dynamic stops c).value =
        .dynamic name (Text.trimmed (String.ofList (start.span (isSource stops)).1)) ∧
      (dynamic stops c).next =
        afterStatement (signColumn c) (start.span (isSource stops)).2 := by
  rw [dynamic]
  split
  · rename_i none
    cases target.symm.trans none
  · rename_i found
    cases target.symm.trans found
    exact ⟨rfl, rfl⟩

theorem isSource_append (stops extra : List Char) (c : Char) :
    isSource (stops ++ extra) c = (isSource stops c && !extra.contains c) := by
  rw [isSource, isSource, List.contains_eq_mem, List.contains_eq_mem, List.contains_eq_mem,
    Bool.and_assoc]
  by_cases first : c ∈ stops
  · simp [first]
  · simp [first]

theorem span_isSource_append (closing : extra ⊆ [')', '|']) {c : Cursor}
    (clear : (Text.trim (c.span (isSource stops)).1).all (!extra.contains ·) = true) :
    c.span (isSource (stops ++ extra)) = c.span (isSource stops) := by
  have run : ∀ x ∈ c.rest.takeWhile (isSource stops), isSource (stops ++ extra) x = true := by
    intro x mem
    have free : extra.contains x = false := by
      by_contra stop
      have stop : x ∈ extra := by simpa using stop
      have kept := Text.mem_trim mem (not_isBlank_of_closing closing stop)
      have apart := List.all_eq_true.mp clear x kept
      simp [stop] at apart
    rw [isSource_append, List.mem_takeWhile_imp mem, free]
    rfl
  have weaker : ∀ x, isSource (stops ++ extra) x = true → isSource stops x = true := by
    intro x passed
    rw [isSource_append, Bool.and_eq_true] at passed
    exact passed.1
  obtain ⟨taken, dropped⟩ := takeWhile_of_run weaker c.rest run
  simp only [Cursor.span, taken, dropped]

theorem afterStatement_of_head? {c : Cursor} (unlined : c.rest.head? ≠ some '\n') (column : Nat) :
    afterStatement column c = c := by
  have none : c.after? '\n' = none := by
    cases found : c.after? '\n' with
    | none => rfl
    | some next =>
      rw [Cursor.rest_of_after? found] at unlined
      exact absurd rfl unlined
  simp only [afterStatement, Cursor.skipLineEnd, none, Option.getD_none, ite_self]

theorem lineStart_eq {column column' : Nat} (h : column = 0 ↔ column' = 0) :
    lineStart column = lineStart column' := by
  rw [lineStart, lineStart]
  omega

variable {w : List Char} {c c' equals equals' next next' closed : Cursor} {name : String}

/- What is read alike in a longer text. -/

/-- A tree that is read in a longer text, but for columns, up to the same place. -/
def TreeIn (w stops : List Char) (c' : Cursor) (t : Tree) (next : Cursor) : Prop :=
  ∃ t' next', Reads stops c' t' next' ∧ Longer w next next' ∧ t.Alike t'

def NodeIn (w stops : List Char) (first : Char) (c' : Cursor) (n : Node) (next : Cursor) : Prop :=
  ∃ n' next', ReadsNode stops first c' n' next' ∧ Longer w next next' ∧
    n.mapColumn lineStart = n'.mapColumn lineStart

def AlternativesIn (w : List Char) (c' : Cursor) (found : List Alternative) (closed : Cursor) :
    Prop :=
  ∃ found' closed', ReadsAlternatives c' found' closed' ∧ Longer w closed closed' ∧
    Alternative.mapColumns lineStart found = Alternative.mapColumns lineStart found'

def ChainIn (w : List Char) (c c' : Cursor) : Prop :=
  (chain c').value = (chain c).value ∧ Longer w (chain c).next (chain c').next

theorem TreeIn.cons {b' rest : List Char} {first : Char} {n : Node} {mid : Cursor} {t : Tree}
    (inside : first ∉ stops) (head : NodeIn w stops first ⟨first :: b', rest⟩ n mid)
    (tail : ∀ mid', Longer w mid mid' → TreeIn w stops mid' t next) :
    TreeIn w stops ⟨b', first :: rest⟩ (Tree.cons n t) next := by
  obtain ⟨n', mid', read, past, same⟩ := head
  obtain ⟨t', next', reads, ended, alike⟩ := tail mid' past
  refine ⟨Tree.cons n' t', next', .cons inside read reads, ended, ?_⟩
  rw [Tree.Alike, Tree.mapColumns_cons, Tree.mapColumns_cons, same, alike]

namespace NodeIn

theorem assign {t : Tree} (target : target? c' = some (name, equals'))
    (start : signColumn c = 0 ↔ signColumn c' = 0)
    (value : TreeIn w ('\n' :: stops) equals'.skipSpaces t next)
    (ends : next.rest = [] → w.head? ≠ some '\n') :
    NodeIn w stops '$' c' (.assign name t.trim (signColumn c) false [])
      (afterStatement (signColumn c) next) := by
  obtain ⟨t', next', reads, past, alike⟩ := value
  refine ⟨_, _, .assign target reads, past.afterStatement ends start, ?_⟩
  simp only [Node.mapColumn, Tree.mapColumns_trim, lineStart_eq start]
  rw [alike]

theorem symbol (target : target? c' = none) (named : c'.name? = some (name, next'))
    (chained : ChainIn w next next') :
    NodeIn w stops '$' c' (.symbol name (chain next).value) (chain next).next :=
  ⟨_, _, .symbol target named, chained.2, by rw [chained.1]⟩

theorem dynamic {stops' : List Char} (target : target? c = some (name, equals))
    (target' : target? c' = some (name, equals'))
    (run : (equals'.span (isSource stops')).1 = (equals.span (isSource stops)).1 ∧
      Longer w (equals.span (isSource stops)).2 (equals'.span (isSource stops')).2)
    (ends : (equals.span (isSource stops)).2.rest = [] → w.head? ≠ some '\n')
    (starts : '\n' ∈ c.rest → (signColumn c = 0 ↔ signColumn c' = 0)) :
    NodeIn w stops' '&' c' (dynamic stops c).value (dynamic stops c).next := by
  obtain ⟨value, past⟩ := dynamic_of_target? stops target
  obtain ⟨value', past'⟩ := dynamic_of_target? stops' target'
  refine ⟨_, _, readsNode_dynamic stops' c', ?_, by rw [value, value', run.1]⟩
  rw [past, past']
  by_cases line : '\n' ∈ c.rest
  · exact run.2.afterStatement ends (starts line)
  -- Without a line end in the text, no statement can take one with it.
  · have suffix : (equals.span (isSource stops)).2.rest <:+ c.rest :=
      ((Cursor.Reaches.of_scan .target? target).trans (.span _ _)).suffix
    have unlined : (equals.span (isSource stops)).2.rest.head? ≠ some '\n' := fun first =>
      line (suffix.subset (List.mem_of_mem_head? first))
    have unlined' : (equals'.span (isSource stops')).2.rest.head? ≠ some '\n' := by
      rw [run.2.rest]
      cases rest : (equals.span (isSource stops)).2.rest with
      | nil => exact ends rest
      | cons x rest' =>
        rw [rest] at unlined
        exact unlined
    rw [afterStatement_of_head? unlined, afterStatement_of_head? unlined']
    exact run.2

theorem inlineAssign {t : Tree} (spaced : Longer w c.skipSpaces c'.skipSpaces)
    (opened : c'.after? ')' = none) (target : inlineTarget? c' = some (name, equals'))
    (value : TreeIn w [')'] equals'.skipSpaces t next) (close : next.after? ')' = some closed)
    (chained : ∀ closed', Longer w closed closed' → ChainIn w closed closed') :
    NodeIn w stops '(' c' (.assign name t.trim c.skipSpaces.column true (chain closed).value)
      (chain closed).next := by
  obtain ⟨t', next', reads, ended, alike⟩ := value
  obtain ⟨closed', close', after⟩ := ended.exists_after? close
  obtain ⟨found, finished⟩ := chained closed' after
  refine ⟨_, _, .inlineAssign opened target reads close', finished, ?_⟩
  simp only [Node.mapColumn, Tree.mapColumns_trim, lineStart_eq spaced.column, found]
  rw [alike]

theorem choice {found : List Alternative} (opened : c'.after? ')' = none)
    (target : inlineTarget? c' = none) (body : AlternativesIn w c' found closed)
    (chained : ∀ closed', Longer w closed closed' → ChainIn w closed closed') :
    NodeIn w stops '(' c' (.choice found (chain closed).value) (chain closed).next := by
  obtain ⟨found', closed', reads, ended, alike⟩ := body
  obtain ⟨value, finished⟩ := chained closed' ended
  refine ⟨_, _, .choice opened target reads, finished, ?_⟩
  simp only [Node.mapColumn, alike, value]

section

variable {conditions : Parsed (List Condition) c.rest.length}
  {read : Parsed (List Condition) c'.rest.length}

theorem guardAlone (found : guard c' = .conditions read) (value : read.value = conditions.value)
    (spaced : Longer w conditions.next.skipSpaces read.next.skipSpaces)
    (last : ∀ x ∈ conditions.next.skipSpaces.rest.head?, x = '\n' ∨ x ∈ stops)
    (ends : conditions.next.skipSpaces.rest = [] → ∀ x ∈ w.head?, x = '\n' ∨ x ∈ stops) :
    NodeIn w stops '\x7b' c' (.guarded conditions.value []) conditions.next.skipSpaces := by
  refine ⟨_, _, .guardAlone found ?_, spaced, by rw [value]⟩
  rw [spaced.rest]
  cases rest : conditions.next.skipSpaces.rest with
  | nil => exact ends rest
  | cons x rest' =>
    rw [rest] at last
    exact last

theorem guarded {rest : List Char} {first : Char} {n : Node} (found : guard c' = .conditions read)
    (value : read.value = conditions.value)
    (more : read.next.skipSpaces.rest = first :: rest) (line : first ≠ '\n')
    (inside : first ∉ stops)
    (body : NodeIn w stops first ⟨first :: read.next.skipSpaces.before, rest⟩ n next) :
    NodeIn w stops '\x7b' c' (.guarded conditions.value [n]) next := by
  obtain ⟨n', next', reads, ended, same⟩ := body
  refine ⟨_, _, .guarded found more line inside reads, ended, ?_⟩
  simp only [Node.mapColumn, Tree.mapColumns, value, same]

end

end NodeIn

namespace AlternativesIn

theorem more {t : Tree} {start : Cursor} {found : List Alternative}
    (head : TreeIn w ['|', ')'] c' t next) (bar : next.after? '|' = some start)
    (tail : ∀ start', Longer w start start' → AlternativesIn w start' found closed) :
    AlternativesIn w c' (Alternative.ofTree t :: found) closed := by
  obtain ⟨t', next', reads, ended, alike⟩ := head
  obtain ⟨start', bar', past⟩ := ended.exists_after? bar
  obtain ⟨found', closed', rest, finished, same⟩ := tail start' past
  refine ⟨_, _, .more reads bar' rest, finished, ?_⟩
  simp only [Alternative.mapColumns, Alternative.mapColumn_ofTree, same]
  rw [alike]

theorem last {t : Tree} (head : TreeIn w ['|', ')'] c' t next) (bar : next.after? '|' = none)
    (close : next.after? ')' = some closed) :
    AlternativesIn w c' [Alternative.ofTree t] closed := by
  obtain ⟨t', next', reads, ended, alike⟩ := head
  obtain ⟨closed', close', finished⟩ := ended.exists_after? close
  have bar' := ended.after?_eq_none bar fun ended => by
    rw [Cursor.rest_of_after? close] at ended
    cases ended
  refine ⟨_, _, .last reads bar' close', finished, ?_⟩
  simp only [Alternative.mapColumns, Alternative.mapColumn_ofTree]
  rw [alike]

end AlternativesIn

/- Trees before a closing parenthesis. -/

/-- Stops that may be added when a text is put between parentheses. -/
structure Closing (stops extra : List Char) : Prop where
  closing : extra ⊆ [')', '|']
  shut : ')' ∈ stops ++ extra
  unopened : '(' ∉ stops

theorem Closing.line (h : Closing stops extra) : Closing ('\n' :: stops) extra where
  closing := h.closing
  shut := List.mem_cons_of_mem _ h.shut
  unopened := by simp [h.unopened]

theorem Closing.inline : Closing [')'] [] where
  closing := List.nil_subset _
  shut := by decide
  unopened := by decide

theorem Closing.choice : Closing ['|', ')'] [] where
  closing := List.nil_subset _
  shut := by decide
  unopened := by decide

theorem isPlain_append (closing : extra ⊆ [')', '|']) (stops : List Char) :
    isPlain (stops ++ extra) = isPlain stops := by
  funext c
  by_cases stop : c ∈ extra
  · rcases eq_of_mem_closing closing stop with rfl | rfl <;> simp [isPlain, signs]
  · simp [isPlain, stop]

theorem rest_ne_nil_of_inlineTarget? (h : inlineTarget? c = some (name, next)) : c.rest ≠ [] := by
  intro ended
  obtain ⟨sign, come, _⟩ := Option.bind_eq_some_iff.mp h
  have nothing := Cursor.rest_of_after? come
  rw [Cursor.skipSpaces, Cursor.span, ended] at nothing
  cases nothing

theorem rest_ne_nil_of_readsAlternatives {found : List Alternative}
    (h : ReadsAlternatives c found next) : c.rest ≠ [] := by
  intro ended
  obtain ⟨b, rest⟩ := c
  simp only at ended
  rw [ended] at h
  exact not_readsAlternatives_nil h

namespace Wider

theorem plain (h : Wider w c c') (closing : extra ⊆ [')', '|']) (sign : first ∉ signs) :
    NodeIn (')' :: w) (stops ++ extra) first c' (plain stops first c).value
      (plain stops first c).next := by
  have ends : isPlain stops ')' = false := by simp [isPlain, signs]
  have run := (tracks_wider w).span h (List.forall_mem_singleton.mpr ends)
  refine ⟨_, _, .plain sign, ?_⟩
  simp only [plain_value, plain_next, isPlain_append closing, run.1]
  exact ⟨run.2, trivial⟩

theorem source (h : Wider w equals equals') (stops : List Char) (closing : extra ⊆ [')', '|'])
    (shut : ')' ∈ stops ++ extra)
    (clear : (Text.trim (equals.span (isSource stops)).1).all (!extra.contains ·) = true) :
    (equals'.span (isSource (stops ++ extra))).1 = (equals.span (isSource stops)).1 ∧
      Wider w (equals.span (isSource stops)).2 (equals'.span (isSource (stops ++ extra))).2 := by
  have ends : isSource (stops ++ extra) ')' = false := by
    rw [isSource, List.contains_eq_mem, decide_eq_true shut]
    rfl
  have run := (tracks_wider w).span h (List.forall_mem_singleton.mpr ends)
  rwa [span_isSource_append closing clear] at run

end Wider

mutual

theorem reads_in_wider : ∀ {stops : List Char} {c next : Cursor} {t : Tree},
    Reads stops c t next → ∀ ⦃extra : List Char⦄ ⦃c' : Cursor⦄, Wider w c c' →
      Closing stops extra → Tree.clearOf extra t = true →
      TreeIn (')' :: w) (stops ++ extra) c' t next
  | _, _, _, _, .done, _, ⟨_, _⟩, wider, stops, _ => by
    obtain rfl := wider.rest
    exact ⟨[], _, .stop stops.shut, wider, rfl⟩
  | _, _, _, _, .stop stop, _, ⟨_, _⟩, wider, _, _ => by
    obtain rfl := wider.rest
    exact ⟨[], _, .stop (List.mem_append_left _ stop), wider, rfl⟩
  | _, _, _, _, .cons inside head tail, _, ⟨_, _⟩, wider, stops, clear => by
    have before := readsNode_in_wider head
    have after := reads_in_wider tail
    obtain ⟨rfl, started, start⟩ := wider.step rfl
    rw [Tree.clearOf_cons (last_of_readsNode head), Bool.and_eq_true] at clear
    have apart := not_mem_of_readsNode stops.closing head clear.1
    have open_ := (rest_ne_open_of_reads stops.unopened tail).1
    refine .cons ?_ (before started (fun _ _ => start) stops open_ clear.1)
      fun _ past => after past stops clear.2
    rw [List.mem_append, not_or]
    exact ⟨inside, apart⟩

theorem readsNode_in_wider : ∀ {stops : List Char} {first : Char} {c next : Cursor} {n : Node},
    ReadsNode stops first c n next → ∀ ⦃extra : List Char⦄ ⦃c' : Cursor⦄, Wider w c c' →
      ((target? c).isSome → first = '$' ∨ first = '&' ∧ '\n' ∈ c.rest →
        (signColumn c = 0 ↔ signColumn c' = 0)) →
      Closing stops extra → next.rest ≠ ['('] → n.clearOf extra = true →
      NodeIn (')' :: w) (stops ++ extra) first c' n next
  | _, _, _, _, _, .newline, _, _, wider, _, _, _, _ => ⟨_, _, .newline, wider, rfl⟩
  | _, _, _, _, _, .assign target value, _, _, wider, starts, stops, _, clear => by
    have body := reads_in_wider value
    obtain ⟨equals', target', past⟩ := ((tracks_wider w).target? wider).exists_some target
    rw [target] at starts
    rw [Node.clearOf, Tree.clearOf_trim stops.closing] at clear
    exact .assign target' (starts rfl (.inl rfl))
      (body ((tracks_wider w).skipSpaces past) stops.line clear) nofun
  | _, _, _, _, _, .symbol target named, _, _, wider, _, _, open_, _ => by
    obtain ⟨next', named', past⟩ := ((tracks_wider w).name? wider).exists_some named
    exact .symbol (eq_none_of_rel ((tracks_wider w).target? wider) target) named'
      (past.chain open_)
  | _, _, _, _, _, .dollar named, _, _, wider, _, _, _, _ =>
    ⟨_, _, .dollar (eq_none_of_rel ((tracks_wider w).name? wider) named), wider, rfl⟩
  | stops, _, _, _, _, .dynamic target, _, _, wider, starts, closing, _, clear => by
    obtain ⟨equals', target', past⟩ := ((tracks_wider w).target? wider).exists_some target
    rw [target] at starts
    rw [(dynamic_of_target? stops target).1, Node.clearOf, Text.trimmed, String.toList_ofList,
      String.toList_ofList] at clear
    exact .dynamic target target' (past.source stops closing.closing closing.shut clear) nofun
      fun line => starts rfl (.inr ⟨rfl, line⟩)
  | _, _, _, _, _, .ampersand target, _, _, wider, _, _, _, _ =>
    ⟨_, _, .ampersand (eq_none_of_rel ((tracks_wider w).target? wider) target), wider, rfl⟩
  | _, _, _, _, _, .pair shut, _, _, wider, _, _, _, _ => by
    obtain ⟨closed', shut', past⟩ := wider.exists_after? shut
    exact ⟨_, _, .pair shut', past, rfl⟩
  | _, _, _, _, _, .inlineAssign opened target value close, _, _, wider, _, _, open_, _ => by
    have body := reads_in_wider value
    obtain ⟨equals', target', past⟩ :=
      ((tracks_wider w).inlineTarget? wider (by decide)).exists_some target
    have opened' := wider.after?_eq_none opened fun ended =>
      absurd ended (rest_ne_nil_of_inlineTarget? target)
    exact .inlineAssign ((tracks_wider w).skipSpaces wider) opened' target'
      (body ((tracks_wider w).skipSpaces past) Closing.inline (Tree.clearOf_nil _)) close
      fun _ after => Wider.chain after open_
  | _, _, _, _, _, .choice opened target body, _, _, wider, _, _, open_, _ => by
    have inside := alternatives_in_wider body
    have target' := eq_none_of_rel ((tracks_wider w).inlineTarget? wider (by decide)) target
    have opened' := wider.after?_eq_none opened fun ended =>
      absurd ended (rest_ne_nil_of_readsAlternatives body)
    exact .choice opened' target' (inside wider) fun _ after => Wider.chain after open_
  | _, _, _, _, _, .brace other, _, _, wider, _, _, _, _ =>
    ⟨_, _, .brace ((wider.guard (by rw [other]; nofun)).eq_other other), wider, rfl⟩
  | _, _, _, _, _, .guardAlone found last, _, _, wider, _, stops, _, _ => by
    obtain ⟨read, found', value, past⟩ :=
      (wider.guard (by rw [found]; nofun)).exists_conditions found
    refine .guardAlone found' value ((tracks_wider w).skipSpaces past)
      (fun x mem => (last x mem).imp_right (List.mem_append_left _)) fun _ x mem => ?_
    cases mem
    exact .inr stops.shut
  | _, _, _, _, _, .guarded found more line inside body, _, _, wider, _, stops, open_, clear => by
    have inner := readsNode_in_wider body
    obtain ⟨read, found', value, past⟩ :=
      (wider.guard (by rw [found]; nofun)).exists_conditions found
    obtain ⟨more', started, start⟩ := ((tracks_wider w).skipSpaces past).step more
    rw [Node.clearOf, Tree.clearOf, Bool.and_eq_true] at clear
    have apart := not_mem_of_readsNode stops.closing body clear.1
    refine .guarded found' value more' line ?_
      (inner started (fun _ _ => start) stops open_ clear.1)
    rw [List.mem_append, not_or]
    exact ⟨inside, apart⟩
  | _, _, _, _, _, .close, _, _, wider, _, _, _, _ => ⟨_, _, .close, wider, rfl⟩
  | _, _, _, _, _, .bar, _, _, wider, _, _, _, _ => ⟨_, _, .bar, wider, rfl⟩
  | _, _, _, _, _, .plain unsigned, _, _, wider, _, stops, _, _ =>
    wider.plain stops.closing unsigned

theorem alternatives_in_wider : ∀ {c closed : Cursor} {found : List Alternative},
    ReadsAlternatives c found closed → ∀ ⦃c' : Cursor⦄, Wider w c c' →
      AlternativesIn (')' :: w) c' found closed
  | _, _, _, .more head bar tail, _, wider => by
    have first := reads_in_wider head
    have later := alternatives_in_wider tail
    exact .more (first wider Closing.choice (Tree.clearOf_nil _)) bar fun _ past => later past
  | _, _, _, .last head bar close, _, wider => by
    have only := reads_in_wider head
    exact .last (only wider Closing.choice (Tree.clearOf_nil _)) bar close

end

/- The beginning of a text. -/

/-- Whether a text begins with an assignment that takes its line with it if it starts one. -/
def opensStatement (c : Cursor) : Bool :=
  match c.rest with
  | '$' :: rest => (target? ⟨'$' :: c.before, rest⟩).isSome
  | '&' :: rest => (target? ⟨'&' :: c.before, rest⟩).isSome && rest.contains '\n'
  | _ => false

theorem signColumn_of_opensStatement {b b' rest rest' left : List Char}
    (starts : opensStatement ⟨b, first :: rest⟩ = true →
      ((Cursor.mk b (first :: rest)).column = 0 ↔ (Cursor.mk b' rest').column = 0))
    (target : (target? ⟨first :: b, rest⟩).isSome)
    (statement : first = '$' ∨ first = '&' ∧ '\n' ∈ rest) :
    signColumn ⟨first :: b, rest⟩ = 0 ↔ signColumn ⟨first :: b', left⟩ = 0 := by
  refine signColumn_cons_eq_zero_iff first _ _ (starts ?_)
  rcases statement with rfl | ⟨rfl, line⟩
  · exact target
  · simp [opensStatement, target, line]

theorem reads_at_start {t : Tree} (h : Reads stops c t next) (text : c'.rest = c.rest ++ ')' :: w)
    (starts : opensStatement c = true → (c.column = 0 ↔ c'.column = 0))
    (closing : Closing stops extra) (clear : Tree.clearOf extra t = true) :
    ∃ t' next', Reads (stops ++ extra) c' t' next' ∧ next'.rest = next.rest ++ ')' :: w ∧
      t.Alike t' := by
  obtain ⟨b', rest'⟩ := c'
  simp only at text
  rw [text]
  cases h with
  | done => exact ⟨[], _, .stop closing.shut, rfl, rfl⟩
  | stop stop => exact ⟨[], _, .stop (List.mem_append_left _ stop), rfl, rfl⟩
  | @cons _ b rest first n mid _ t inside head tail =>
    rw [Tree.clearOf_cons (last_of_readsNode head), Bool.and_eq_true] at clear
    have started : Wider w ⟨first :: b, rest⟩ ⟨first :: b', rest ++ ')' :: w⟩ :=
      ⟨rfl, column_cons_eq_zero_iff first _ _ _ _⟩
    have node := readsNode_in_wider head started (signColumn_of_opensStatement starts) closing
      (rest_ne_open_of_reads closing.unopened tail).1 clear.1
    have apart : first ∉ stops ++ extra := by
      rw [List.mem_append, not_or]
      exact ⟨inside, not_mem_of_readsNode closing.closing head clear.1⟩
    obtain ⟨t', next', reads, ended, alike⟩ :=
      TreeIn.cons apart node fun _ past => reads_in_wider tail past closing clear.2
    exact ⟨t', next', reads, ended.rest, alike⟩

theorem head_not_mem_of_reads {t : Tree} (closing : extra ⊆ [')', '|']) (h : Reads stops c t next)
    (clear : Tree.clearOf extra t = true) (inside : ∀ x ∈ c.rest.head?, x ∉ stops) :
    ∀ x ∈ c.rest.head?, x ∉ extra := by
  intro x head
  cases h with
  | done => cases head
  | stop stop => exact absurd stop (inside _ rfl)
  | cons _ node _ =>
    cases head
    rw [Tree.clearOf_cons (last_of_readsNode node), Bool.and_eq_true] at clear
    exact not_mem_of_readsNode closing node clear.1

end TextGen.Script
