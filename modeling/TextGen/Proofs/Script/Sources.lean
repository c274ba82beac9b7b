import Mathlib
import TextGen.Proofs.Script.Exchange
import TextGen.Proofs.Script.Guards

/-! Assignments of values and of sources.
The reader of a script calls other readers, and an assignment stands where one of them is called for
a sign and a target. With an ampersand in place of the dollar sign the same readers are called up to
this place, and what becomes the source is the text that was read as the value: all of it, or its
first line if parentheses carry the value over a line end. -/
namespace TextGen.Script

/- Calls. -/

/-- A reader of nodes, of one node whose first character has been read, or of alternatives. -/
inductive Reader where
  | nodes (stops : List Char)
  | node (stops : List Char) (first : Char)
  | alternatives

structure ReaderCall where
  reader : Reader
  place : Cursor

/-- A call leads to another one, after those before it have succeeded. -/
inductive ReaderCall.Leads : ReaderCall → ReaderCall → Prop
  | head {stops rest : List Char} {c : Cursor} {first : Char} (text : c.rest = first :: rest)
      (other : first ∉ stops) :
      Leads ⟨.nodes stops, c⟩ ⟨.node stops first, ⟨first :: c.before, rest⟩⟩
  | tail {stops rest : List Char} {c : Cursor} {first : Char} (text : c.rest = first :: rest)
      (other : first ∉ stops) {n : Parsed Node rest.length}
      (read : node stops first ⟨first :: c.before, rest⟩ = .ok n) :
      Leads ⟨.nodes stops, c⟩ ⟨.nodes stops, n.next⟩
  | value {stops : List Char} {c equals : Cursor} {name : String}
      (target : target? c = some (name, equals)) :
      Leads ⟨.node stops '$', c⟩ ⟨.nodes ('\n' :: stops), equals.skipSpaces⟩
  | inlineValue {stops : List Char} {c equals : Cursor} {name : String}
      (opened : c.after? ')' = none) (target : inlineTarget? c = some (name, equals)) :
      Leads ⟨.node stops '(', c⟩ ⟨.nodes [')'], equals.skipSpaces⟩
  | choice {stops : List Char} {c : Cursor} (opened : c.after? ')' = none)
      (target : inlineTarget? c = none) : Leads ⟨.node stops '(', c⟩ ⟨.alternatives, c⟩
  | first {c : Cursor} : Leads ⟨.alternatives, c⟩ ⟨.nodes ['|', ')'], c⟩
  | later {c start : Cursor} {t : Parsed Tree c.rest.length} (read : nodes ['|', ')'] c = .ok t)
      (bar : t.next.after? '|' = some start) : Leads ⟨.alternatives, c⟩ ⟨.alternatives, start⟩
  | body {stops rest : List Char} {c : Cursor} {conditions : Parsed (List Condition) c.rest.length}
      {first : Char} (found : guard c = .conditions conditions)
      (more : conditions.next.skipSpaces.rest = first :: rest) (line : first ≠ '\n')
      (other : first ∉ stops) :
      Leads ⟨.node stops '\x7b', c⟩
        ⟨.node stops first, ⟨first :: conditions.next.skipSpaces.before, rest⟩⟩

/-- Behind `front`, the reader of the whole text calls the reader of a node for a sign, with
the given stops. -/
def StandsIn (front : List Char) (sign : Char) (rest stops : List Char) : Prop :=
  Relation.ReflTransGen ReaderCall.Leads
    ⟨.nodes [], Cursor.start (String.ofList (front ++ sign :: rest))⟩
    ⟨.node stops sign, ⟨sign :: front.reverse, rest⟩⟩

def ReaderCall.Closing : ReaderCall → Prop
  | ⟨.nodes stops, _⟩ => stops ⊆ closers
  | ⟨.node stops _, _⟩ => stops ⊆ closers
  | ⟨.alternatives, _⟩ => True

variable {tail : List Char} {g h : ReaderCall} {d : Cursor}

namespace ReaderCall.Leads

theorem closing (step : g.Leads h) (before : g.Closing) : h.Closing := by
  cases step with
  | head => exact before
  | tail => exact before
  | value => exact List.cons_subset.mpr ⟨by decide, before⟩
  | inlineValue => exact show [')'] ⊆ closers by decide
  | choice => trivial
  | first => exact show ['|', ')'] ⊆ closers by decide
  | later => trivial
  | body => exact before

theorem suffix (step : g.Leads h) : h.place.rest <:+ g.place.rest := by
  cases step with
  | head text => exact text ▸ List.suffix_cons _ _
  | tail text _ read =>
    exact (suffix_of_readsNode (readsNode_of_node read)).trans (text ▸ List.suffix_cons _ _)
  | value target => exact ((Cursor.Reaches.of_scan .target? target).trans (.skipSpaces _)).suffix
  | inlineValue _ target =>
    exact ((Cursor.Reaches.of_scan .inlineTarget? target).trans (.skipSpaces _)).suffix
  | choice => exact List.suffix_rfl
  | first => exact List.suffix_rfl
  | later read bar =>
    exact (Cursor.Reaches.after? bar).suffix.trans (suffix_of_reads (reads_of_nodes read))
  | body found more =>
    have guarded := ((Cursor.Reaches.guard found).trans (.skipSpaces _)).suffix
    exact (List.suffix_cons _ _).trans (more ▸ guarded)

theorem exchanged (step : g.Leads h) (same : Exchanged tail g.place d) (closing : g.Closing)
    (ahead : h.place.IsBefore tail) :
    ∃ d', Leads ⟨g.reader, d⟩ ⟨h.reader, d'⟩ ∧ Exchanged tail h.place d' := by
  cases step with
  | head text other =>
    obtain ⟨rest', text', inside⟩ := same.exists_cons text ahead
    exact ⟨_, .head text' other, inside⟩
  | tail text other read =>
    have head := readsNode_of_node read
    obtain ⟨rest', text', inside⟩ :=
      same.exists_cons text (List.IsSuffix.trans ahead (suffix_of_readsNode head))
    obtain ⟨mid', head', past⟩ := Exchanged.readsNode head inside closing ahead
    obtain ⟨n', read', _, rfl⟩ := node_of_readsNode head'
    exact ⟨_, .tail text' other read', past⟩
  | value target =>
    obtain ⟨equals', target', begun⟩ := same.target?.exists_some target
    exact ⟨_, .value target', begun.skipSpaces⟩
  | inlineValue opened target =>
    obtain ⟨equals', target', begun⟩ := same.inlineTarget?.sameOrPast.exists_same target
      (ahead.of_suffix (Cursor.Reaches.skipSpaces _).suffix)
    exact ⟨_, .inlineValue (eq_none_of_rel (same.after? (by decide)) opened) target',
      begun.skipSpaces⟩
  | choice opened target =>
    exact ⟨d, .choice (eq_none_of_rel (same.after? (by decide)) opened)
      (same.inlineTarget?.eq_none target), same⟩
  | first => exact ⟨d, .first, same⟩
  | later read bar =>
    obtain ⟨next', head', past⟩ := Exchanged.reads (reads_of_nodes read) same (by decide)
      (ahead.of_suffix (Cursor.Reaches.after? bar).suffix)
    obtain ⟨t', read', _, rfl⟩ := nodes_of_reads head'
    obtain ⟨start', bar', goesOn⟩ := exists_of_rel (past.after? (by decide)) bar
    exact ⟨start', .later read' bar', goesOn⟩
  | body found more line other =>
    have spacedAhead : Cursor.IsBefore tail _ :=
      List.IsSuffix.trans ahead (more ▸ List.suffix_cons _ _)
    obtain ⟨r', found', _, past⟩ :=
      same.guard_conditions found (spacedAhead.of_suffix (Cursor.Reaches.skipSpaces _).suffix)
    obtain ⟨rest', more', inside⟩ := past.skipSpaces.exists_cons more ahead
    exact ⟨_, .body found' more' line other, inside⟩

theorem cons_suffix {stops b rest : List Char} {first : Char}
    (step : g.Leads ⟨.node stops first, ⟨first :: b, rest⟩⟩) : first :: rest <:+ g.place.rest := by
  generalize called : ReaderCall.mk (.node stops first) ⟨first :: b, rest⟩ = h at step
  cases step with
  | head text _ =>
    cases called
    exact text ▸ List.suffix_rfl
  | body found more _ _ =>
    cases called
    exact more ▸ ((Cursor.Reaches.guard found).trans (.skipSpaces _)).suffix
  | _ => cases called

theorem sign {stops b : List Char} (step : g.Leads ⟨.node stops '$', ⟨'$' :: b, tail⟩⟩)
    (same : Exchanged tail g.place d) (closing : g.Closing) :
    Leads ⟨g.reader, d⟩ ⟨.node stops '&', ⟨'&' :: b, tail⟩⟩ := by
  generalize called : ReaderCall.mk (.node stops '$') ⟨'$' :: b, tail⟩ = h at step
  cases step with
  | head text other =>
    cases called
    obtain rfl := same.eq_of_rest text
    exact .head rfl (not_mem_of_closers closing (by decide))
  | body found more line other =>
    cases called
    have spacedAhead : Cursor.IsBefore tail _ := ⟨[], more.symm⟩
    obtain ⟨r', found', _, past⟩ :=
      same.guard_conditions found (spacedAhead.of_suffix (Cursor.Reaches.skipSpaces _).suffix)
    have here := past.skipSpaces.eq_of_rest more
    have called := Leads.body found' (congrArg Cursor.rest here) (by decide)
      (not_mem_of_closers closing (by decide))
    rwa [here] at called
  | _ => cases called

end ReaderCall.Leads

/- What a call leads to in the end. -/

theorem closing_of_leads (run : Relation.ReflTransGen ReaderCall.Leads g h) (before : g.Closing) :
    h.Closing := by
  induction run with
  | refl => exact before
  | tail _ step ih => exact step.closing ih

theorem exchanged_of_leads (run : Relation.ReflTransGen ReaderCall.Leads g h)
    (same : Exchanged tail g.place d) (closing : g.Closing) (ahead : h.place.IsBefore tail) :
    ∃ d', Relation.ReflTransGen ReaderCall.Leads ⟨g.reader, d⟩ ⟨h.reader, d'⟩ ∧
      Exchanged tail h.place d' := by
  induction run with
  | refl => exact ⟨d, .refl, same⟩
  | tail run step ih =>
    obtain ⟨mid, run', middle⟩ := ih (ahead.of_suffix step.suffix)
    obtain ⟨d', step', last⟩ := step.exchanged middle (closing_of_leads run closing) ahead
    exact ⟨d', run'.tail step', last⟩

namespace StandsIn

variable {front rest stops : List Char} {sign : Char}

theorem closing (stands : StandsIn front sign rest stops) : stops ⊆ closers :=
  closing_of_leads stands (List.nil_subset _)

theorem exchanged (stands : StandsIn front '$' rest stops) : StandsIn front '&' rest stops := by
  have same : Exchanged rest (Cursor.start (String.ofList (front ++ '$' :: rest)))
      (Cursor.start (String.ofList (front ++ '&' :: rest))) := by
    simp only [Cursor.start, String.toList_ofList]
    exact .intro [] front
  obtain impossible | ⟨g, run, step⟩ := stands.cases_tail
  · cases impossible
  · have closing := closing_of_leads run (List.nil_subset _)
    obtain ⟨d, run', middle⟩ := exchanged_of_leads run same (List.nil_subset _) step.cons_suffix
    exact run'.tail (step.sign middle closing)

end StandsIn

/- What a value and a source take of a text. -/

theorem isSource_of_isSpace {stops : List Char} (closing : stops ⊆ closers) {c : Char}
    (space : Cursor.isSpace c = true) : isSource stops c = true := by
  have other : c ∉ closers := by
    intro mem
    simp only [closers, List.mem_cons, List.not_mem_nil, or_false] at mem
    rcases mem with rfl | rfl | rfl <;> exact absurd space (by decide)
  have line : c ≠ '\n' := fun same => other (same ▸ List.mem_cons_self)
  simpa [isSource] using ⟨line, not_mem_of_closers closing other⟩

theorem source_of_value {stops consumed left : List Char} (start : Cursor)
    (closing : stops ⊆ closers) (text : start.skipSpaces.rest = consumed ++ left)
    (apart : ∀ c ∈ consumed, c ∈ stops → c = '\n')
    (ends : ∀ first ∈ left.head?, first ∈ '\n' :: stops) :
    Text.trimmed (String.ofList (start.span (isSource stops)).1) =
        Text.trimmed (String.ofList (consumed.takeWhile (· ≠ '\n'))) ∧
      (start.span (isSource stops)).2.rest = consumed.dropWhile (· ≠ '\n') ++ left := by
  have split := List.takeWhile_append_dropWhile (p := (· ≠ '\n')) (l := consumed)
  have inLine : ∀ c ∈ consumed.takeWhile (· ≠ '\n'), c ≠ '\n' := fun c mem => by
    simpa using List.mem_takeWhile_imp mem
  have lineEnd : ∀ c ∈ (consumed.dropWhile (· ≠ '\n')).head?, c = '\n' := fun c mem => by
    have head := List.head?_dropWhile_not (· ≠ '\n') consumed
    rw [Option.mem_def.mp mem] at head
    simpa using head
  generalize consumed.takeWhile (· ≠ '\n') = line at split inLine ⊢
  generalize consumed.dropWhile (· ≠ '\n') = more at split lineEnd ⊢
  subst split
  have spaces : ∀ c ∈ start.rest.takeWhile Cursor.isSpace, Cursor.isSpace c = true :=
    fun c mem => List.mem_takeWhile_imp mem
  have whole : start.rest = start.rest.takeWhile Cursor.isSpace ++ line ++ (more ++ left) := by
    have after : start.rest.dropWhile Cursor.isSpace = line ++ more ++ left := text
    rw [List.append_assoc, ← List.append_assoc line, ← after, List.takeWhile_append_dropWhile]
  generalize start.rest.takeWhile Cursor.isSpace = gap at spaces whole
  have passes : ∀ c ∈ gap ++ line, isSource stops c = true := by
    intro c mem
    rcases List.mem_append.mp mem with gap | mem
    · exact isSource_of_isSpace closing (spaces c gap)
    · have free : c ∉ stops := fun stop =>
        inLine c mem (apart c (List.mem_append_left more mem) stop)
      simpa [isSource] using ⟨inLine c mem, free⟩
  have stopped : ∀ c ∈ (more ++ left).head?, isSource stops c = false := by
    intro c mem
    have stop : c ∈ '\n' :: stops := by
      cases more with
      | nil => exact ends c mem
      | cons x more => exact List.mem_cons.mpr (.inl (lineEnd c mem))
    rw [List.mem_cons] at stop
    simp only [isSource, List.contains_eq_mem]
    rcases stop with rfl | stop
    · simp
    · simp [stop]
  have run := Text.takeWhile_append_of_run passes stopped
  rw [← whole] at run
  refine ⟨?_, run.2⟩
  rw [Cursor.span, run.1, Text.trimmed, Text.trimmed, String.toList_ofList, String.toList_ofList,
    ← trim_dropWhile_isSpace, List.dropWhile_append_of_pos spaces, trim_dropWhile_isSpace]

theorem rest_afterStatement {c c' : Cursor} (same : c'.rest = c.rest) (column : Nat) :
    (afterStatement column c').rest = (afterStatement column c).rest := by
  obtain ⟨b, rest⟩ := c
  obtain ⟨b', rest'⟩ := c'
  obtain rfl : rest' = rest := same
  unfold afterStatement Cursor.skipLineEnd
  split
  · cases rest' with
    | nil => rfl
    | cons first rest =>
      by_cases line : first = '\n'
      · simp [Cursor.after?, line]
      · simp [Cursor.after?, line]
  · rfl

theorem position_eq_of_rest {c c' : Cursor} (texts : c'.text.length = c.text.length)
    (same : c'.rest = c.rest) : c'.position = c.position := by
  simp only [Cursor.text, List.length_append, List.length_reverse, same] at texts
  exact Nat.add_right_cancel texts

/-- Where an assignment stands and its value can be read, an ampersand in place of the dollar sign
assigns a source: the trimmed text of the value, and reading goes on at the same place. If
parentheses carry the value over a line end, the source is its first line, and reading goes on
there. A sign that closes something around the assignment must not stand in the value. -/
theorem source_covers_value {front rest stops consumed : List Char} {name : String}
    {equals : Cursor} {value : Parsed Tree equals.skipSpaces.rest.length}
    (stands : StandsIn front '$' rest stops)
    (target : target? ⟨'$' :: front.reverse, rest⟩ = some (name, equals))
    (read : nodes ('\n' :: stops) equals.skipSpaces = .ok value)
    (text : equals.skipSpaces.rest = consumed ++ value.next.rest)
    (apart : ∀ c ∈ consumed, c ∈ stops → c = '\n') :
    StandsIn front '&' rest stops ∧ ∃ s d,
      node stops '$' ⟨'$' :: front.reverse, rest⟩ = .ok s ∧
      node stops '&' ⟨'&' :: front.reverse, rest⟩ = .ok d ∧
      s.value = .assign name value.value.trim (Cursor.mk front.reverse rest).column false [] ∧
      s.next = afterStatement (Cursor.mk front.reverse rest).column value.next ∧
      d.value = .dynamic name (Text.trimmed (String.ofList (consumed.takeWhile (· ≠ '\n')))) ∧
      (∃ line : Cursor, line.text = front ++ '&' :: rest ∧
        line.rest = consumed.dropWhile (· ≠ '\n') ++ value.next.rest ∧
        d.next = afterStatement (Cursor.mk front.reverse rest).column line) ∧
      ('\n' ∉ consumed → d.value = .dynamic name (Text.trimmed (String.ofList consumed)) ∧
        d.next.rest = s.next.rest ∧ d.next.position = s.next.position) := by
  refine ⟨stands.exchanged, ?_⟩
  obtain ⟨s, static, assigned, past⟩ := node_of_readsNode (.assign target (reads_of_nodes read))
  obtain ⟨taken, _, anywhere⟩ := IsScan.target? _ _ _ _ target
  have target' := anywhere ('&' :: front.reverse)
  have ends : ∀ first ∈ value.next.rest.head?, first ∈ '\n' :: stops :=
    ends_of_reads (reads_of_nodes read)
  obtain ⟨source, left⟩ :=
    source_of_value ⟨taken.reverse ++ '&' :: front.reverse, equals.rest⟩
      stands.closing text apart ends
  obtain ⟨sourced, past'⟩ := dynamic_of_target? stops target'
  rw [source] at sourced
  have lineText := ((Cursor.Reaches.of_scan .target? target').trans
    (.span (isSource stops) _)).text
  generalize (Cursor.span (isSource stops) _).2 = line at left past' lineText
  refine ⟨s, dynamic stops _, static, by rw [node], assigned, past, sourced,
    ⟨line, ?_, left, past'⟩, fun unlined => ?_⟩
  · simpa [Cursor.text] using lineText
  · have apart := Text.all_ne_of_not_mem unlined
    rw [List.dropWhile_eq_nil_iff.mpr apart, List.nil_append] at left
    rw [List.takeWhile_eq_self_iff.mpr apart] at sourced
    have rests : (dynamic stops ⟨'&' :: front.reverse, rest⟩).next.rest = s.next.rest := by
      rw [past', past]
      exact rest_afterStatement left _
    have located := located_node stops '$' front.reverse rest
    rw [static] at located
    have texts : (dynamic stops ⟨'&' :: front.reverse, rest⟩).next.text.length =
        s.next.text.length := by
      rw [(Cursor.Reaches.dynamic stops _).text, located.text]
      simp [Cursor.text]
    exact ⟨sourced, rests, position_eq_of_rest texts rests⟩

theorem nodes_over_line_end :
    nodes ['\n'] (Cursor.mk "= x$".toList " (a\nb)c".toList).skipSpaces =
      .ok ⟨[.choice [⟨[.text "a", .newline, .text "b"], none⟩] [], .text "c"],
        ⟨"c)b\na( = x$".toList, []⟩, by decide⟩ := by
  with_unfolding_all rfl

theorem source_covers_value_of_alternative :
    (StandsIn "(b | ".toList '&' "x = $y.uc | c)".toList ['|', ')'] ∧
      ∃ d, node ['|', ')'] '&' ⟨'&' :: "(b | ".toList.reverse, "x = $y.uc | c)".toList⟩ = .ok d ∧
        d.value = .dynamic "x" "$y.uc" ∧ d.next.rest = "| c)".toList) ∧
    StandsIn [] '&' "x = (a\nb)c".toList [] ∧
      ∃ d, node [] '&' ⟨['&'], "x = (a\nb)c".toList⟩ = .ok d ∧
        d.value = .dynamic "x" "(a" ∧ d.next.rest = "b)c".toList := by
  have inside : StandsIn "(b | ".toList '$' "x = $y.uc | c)".toList ['|', ')'] := by
    have first : nodes ['|', ')'] ⟨['('], "b | $x = $y.uc | c)".toList⟩ =
        .ok ⟨[.text "b "], ⟨[' ', 'b', '('], "| $x = $y.uc | c)".toList⟩, by decide⟩ := by
      with_unfolding_all rfl
    have space : node ['|', ')'] ' ' ⟨[' ', '|', ' ', 'b', '('], "$x = $y.uc | c)".toList⟩ =
        .ok ⟨.text " ", ⟨[' ', '|', ' ', 'b', '('], "$x = $y.uc | c)".toList⟩, by decide⟩ := by
      with_unfolding_all rfl
    refine .head (.head rfl (by decide)) (.head (.choice (by decide) (by decide)) ?_)
    refine .head (.later first rfl) (.head .first ?_)
    exact .head (.tail rfl (by decide) space) (.single (.head rfl (by decide)))
  have alone : StandsIn [] '$' "x = (a\nb)c".toList [] := .single (.head rfl (by decide))
  have target : target? ⟨"$ | b(".toList, "x = $y.uc | c)".toList⟩ =
      some ("x", ⟨"= x$ | b(".toList, " $y.uc | c)".toList⟩) := by decide
  have target' : target? ⟨['$'], "x = (a\nb)c".toList⟩ =
      some ("x", ⟨"= x$".toList, " (a\nb)c".toList⟩) := by decide
  have value : nodes ['\n', '|', ')']
      (Cursor.mk "= x$ | b(".toList " $y.uc | c)".toList).skipSpaces =
      .ok ⟨[.symbol "y" [⟨"uc", false⟩], .text " "],
        ⟨" cu.y$ = x$ | b(".toList, "| c)".toList⟩, by decide⟩ := by
    with_unfolding_all rfl
  have text : (Cursor.mk "= x$ | b(".toList " $y.uc | c)".toList).skipSpaces.rest =
      "$y.uc ".toList ++ "| c)".toList := by decide
  have text' : (Cursor.mk "= x$".toList " (a\nb)c".toList).skipSpaces.rest =
      "(a\nb)c".toList ++ [] := by decide
  have first := source_covers_value inside target value text (by simp)
  have second := source_covers_value alone target' nodes_over_line_end text'
    (by simp)
  obtain ⟨stands, s, d, _, read, _, past, _, _, whole⟩ := first
  obtain ⟨stands', s', d', _, read', _, _, value', ⟨line, _, left, past'⟩, _⟩ := second
  obtain ⟨value, same, _⟩ := whole (by decide)
  refine ⟨⟨stands, d, read, value, ?_⟩, stands', d', read', value', ?_⟩
  · rw [same, past]
    rfl
  · rw [past']
    exact rest_afterStatement (c := ⟨[], "\nb)c".toList⟩) (left.trans (by decide)) 0

theorem source_short_of_value :
    ¬ ∀ (front rest stops consumed : List Char) (name : String) (equals : Cursor)
      (value : Parsed Tree equals.skipSpaces.rest.length), stops = [] ∨ stops = ['|', ')'] →
      StandsIn front '$' rest stops →
      target? ⟨'$' :: front.reverse, rest⟩ = some (name, equals) →
      nodes ('\n' :: stops) equals.skipSpaces = .ok value →
      equals.skipSpaces.rest = consumed ++ value.next.rest →
      ∃ d, node stops '&' ⟨'&' :: front.reverse, rest⟩ = .ok d ∧
        d.value = .dynamic name (Text.trimmed (String.ofList consumed)) ∧
        d.next.rest = (afterStatement (Cursor.mk front.reverse rest).column value.next).rest := by
  intro whole
  have target : target? ⟨['$'], "x = (a\nb)c".toList⟩ =
      some ("x", ⟨"= x$".toList, " (a\nb)c".toList⟩) := by decide
  obtain ⟨d, read, source, _⟩ := whole [] "x = (a\nb)c".toList [] "(a\nb)c".toList "x" _ _
    (.inl rfl) (.single (.head rfl (by decide))) target nodes_over_line_end (by decide)
  have first : (dynamic [] ⟨['&'], "x = (a\nb)c".toList⟩).value = .dynamic "x" "(a" := by
    with_unfolding_all rfl
  rw [node] at read
  cases read
  have same := first.symm.trans source
  rw [Node.dynamic.injEq] at same
  exact absurd same.2 (by decide)

end TextGen.Script
