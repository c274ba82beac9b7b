import Mathlib
import TextGen.Proofs.Grammar.Refinement
import TextGen.Proofs.Text.Runs
import TextGen.Proofs.Text.Trimming
import TextGen.Proofs.Text.Words

/-! Rules that are written out.
Productions are written with bars between them, and those that have weights with the weights in
brackets behind their texts. If the texts hold none of these signs and have no blanks at their ends,
then the rule that is read has the productions that were written. The text of no production at all
is read as one production, the empty one. -/
namespace TextGen.Grammar

open TextGen.Text (isBlank trimStart trimEnd splitOn)

/-- A production to be written, with the text of its weight if it has one of its own. -/
structure Written where
  text : String
  weight : Option String

namespace Written

def alternative (w : Written) : String :=
  match w.weight with
  | none => w.text
  | some raw => w.text ++ " [" ++ raw ++ "]"

def production (w : Written) : Production := ⟨w.text, (w.weight.bind Number.ofText?).getD 1.0⟩

/-- The text can be told from the signs around it, and the weight is a decimal number. -/
structure IsPlain (w : Written) : Prop where
  nonempty : w.text ≠ ""
  starts : ∀ c ∈ w.text.toList.head?, isBlank c = false
  ends : ∀ c ∈ w.text.toList.getLast?, isBlank c = false
  noBar : '|' ∉ w.text.toList
  noBracket : '[' ∉ w.text.toList
  oneLine : '\n' ∉ w.text.toList
  decimal : ∀ raw ∈ w.weight, ∀ c ∈ raw.toList, c.isDigit = true ∨ c = '.'
  weighs : ∀ raw ∈ w.weight, ∃ x, Number.ofText? raw = some x ∧ Number.isFinite x = true ∧ 0 < x

end Written

/-- A call succeeds and puts a rule with these productions behind the others. -/
structure Appends (g : Grammar) (name : String) (productions : List Production) (o : Outcome) :
    Prop where
  succeeds : o.2 = none
  rules : o.1.rules = g.rules ++ [⟨name, productions⟩]
  found : o.1.get? name = some ⟨name, productions⟩

/- Cutting at the bars. -/

/-- A piece between bars that trimming leaves as it is. -/
structure IsPiece (piece : List Char) : Prop where
  nonempty : piece ≠ []
  starts : ∀ c ∈ piece.head?, isBlank c = false
  ends : ∀ c ∈ piece.getLast?, isBlank c = false
  noBar : '|' ∉ piece

theorem splitOn_of_free {text : List Char} (free : '|' ∉ text) : splitOn '|' text = [text] := by
  unfold splitOn
  rw [Text.splitWhere_eq_splitOnP]
  apply List.splitOnP_eq_singleton
  intro c mem
  exact beq_false_of_ne fun same => free (same ▸ mem)

theorem splitOn_bar {front : List Char} (free : '|' ∉ front) (back : List Char) :
    splitOn '|' (front ++ '|' :: back) = front :: splitOn '|' back := by
  have whole := splitOn_of_free free
  unfold splitOn at whole ⊢
  rw [Text.splitWhere_eq_splitOnP] at whole ⊢
  rw [List.splitOnP_append_cons _ _ (by decide), whole, Text.splitWhere_eq_splitOnP]
  rfl

theorem splitOn_cons_blank (text : List Char) :
    splitOn '|' (' ' :: text) = (splitOn '|' text).modifyHead (' ' :: ·) := by
  unfold splitOn
  rw [Text.splitWhere_eq_splitOnP, List.splitOnP_cons_eq_if_modifyHead,
    Text.splitWhere_eq_splitOnP]
  rfl

theorem IsPiece.trimStart_blank {piece : List Char} (solid : IsPiece piece) (rest : List Char) :
    trimStart (' ' :: (piece ++ rest)) = piece ++ rest := by
  have blank : isBlank ' ' = true := by decide
  unfold trimStart
  rw [List.dropWhile_cons_of_pos blank]
  cases piece with
  | nil => exact absurd rfl solid.nonempty
  | cons c piece =>
    apply List.dropWhile_cons_of_neg
    simp [solid.starts c rfl]

theorem IsPiece.trimEnd_blank {piece : List Char} (solid : IsPiece piece) :
    trimEnd (piece ++ [' ']) = piece := by
  rw [Text.trimEnd_append_blank piece (by decide), Text.trimEnd_eq_self solid.ends]

theorem exists_pieces (piece : List Char) (pieces : List (List Char))
    (solid : ∀ p ∈ piece :: pieces, IsPiece p) :
    ∃ first others, splitOn '|' (List.intercalate [' ', '|', ' '] (piece :: pieces)) =
        first :: others ∧
      trimStart (' ' :: first) = first ∧ trimInner (first :: others) = piece :: pieces := by
  have own := solid piece List.mem_cons_self
  induction pieces generalizing piece with
  | nil =>
    refine ⟨piece, [], ?_, ?_, by rw [trimInner]⟩
    · rw [List.intercalate_singleton, splitOn_of_free own.noBar]
    · simpa using own.trimStart_blank []
  | cons next pieces ih =>
    have later : ∀ p ∈ next :: pieces, IsPiece p := fun p mem =>
      solid p (List.mem_cons_of_mem piece mem)
    obtain ⟨first, others, cut, trimmed, read⟩ := ih next later (later next List.mem_cons_self)
    have free : '|' ∉ piece ++ [' '] := by simpa using own.noBar
    refine ⟨piece ++ [' '], (' ' :: first) :: others, ?_, own.trimStart_blank [' '], ?_⟩
    · have parts : List.intercalate [' ', '|', ' '] (piece :: next :: pieces) =
          (piece ++ [' ']) ++ '|' :: ' ' :: List.intercalate [' ', '|', ' '] (next :: pieces) := by
        simp [List.intercalate_cons_cons]
      rw [parts, splitOn_bar free, splitOn_cons_blank, cut]
      rfl
    · rw [trimInner, own.trimEnd_blank, trimmed, read]

theorem alternatives_intercalate {texts : List String} (some_ : texts ≠ [])
    (solid : ∀ t ∈ texts, IsPiece t.toList) :
    alternatives (String.intercalate " | " texts) = texts := by
  cases texts with
  | nil => exact absurd rfl some_
  | cons text texts =>
    obtain ⟨first, others, cut, _, read⟩ := exists_pieces text.toList (texts.map String.toList) (by
      rw [← List.map_cons, List.forall_mem_map]
      exact solid)
    unfold alternatives
    rw [String.toList_intercalate]
    have bar : " | ".toList = [' ', '|', ' '] := by decide
    rw [bar, List.map_cons, cut, read]
    simp

/- Reading one alternative. -/

theorem weighted?_append {rest : List Char} {parts : List Char × List Char × List Char}
    (front before : List Char) (found : weighted? (front.reverse ++ before) rest = some parts) :
    weighted? before (front ++ rest) = some parts := by
  induction front generalizing before with
  | nil => exact found
  | cons c front ih =>
    have later : weighted? (c :: before) (front ++ rest) = some parts := by
      apply ih
      simpa using found
    rw [List.cons_append]
    unfold weighted?
    rw [later]

theorem bracketed?_of_decimal {raw : List Char} (some_ : raw ≠ [])
    (decimal : ∀ c ∈ raw, c.isDigit = true ∨ c = '.') :
    bracketed? (raw ++ [']']) = some (raw, []) := by
  have run : ∀ c ∈ raw, (c.isDigit || decide (c = '.')) = true := by simpa using decimal
  have stops : ∀ c ∈ [']'].head?, (c.isDigit || decide (c = '.')) = false := by
    rintro c ⟨⟩
    rfl
  obtain ⟨taken, left⟩ := Text.takeWhile_append_of_run run stops
  unfold bracketed?
  simp only [taken, left]
  simp [some_]

variable {w : Written}

namespace Written.IsPlain

variable (plain : w.IsPlain)

include plain

theorem toList_ne_nil : w.text.toList ≠ [] := by
  intro none
  apply plain.nonempty
  exact String.toList_inj.mp none

theorem weighted?_weight {raw : String} (own : w.weight = some raw) :
    weighted? [] (w.alternative).toList = some (w.text.toList, raw.toList, []) := by
  obtain ⟨x, read, _⟩ := plain.weighs raw own
  have some_ : raw.toList ≠ [] := by
    intro none
    rw [Number.ofText?, none] at read
    cases read
  have free : '[' ∉ raw.toList ++ [']'] := by
    intro mem
    rcases List.mem_append.mp mem with inside | last
    · rcases plain.decimal raw own '[' inside with digit | point
      · cases digit
      · cases point
    · simp at last
  have kept : trimEnd (w.text.toList ++ [' ']) = w.text.toList := by
    rw [Text.trimEnd_append_blank _ (by decide), Text.trimEnd_eq_self plain.ends]
  have written : (w.alternative).toList =
      (w.text.toList ++ [' ']) ++ '[' :: (raw.toList ++ [']']) := by
    simp [alternative, own]
  rw [written]
  apply weighted?_append
  unfold weighted?
  rw [weighted?_eq_none free, List.append_nil, List.reverse_reverse, kept,
    bracketed?_of_decimal some_ (plain.decimal raw own)]
  simp [plain.toList_ne_nil, plain.oneLine]

theorem ofText_alternative : Production.ofText 1.0 w.alternative = .ok w.production := by
  unfold Production.ofText
  cases own : w.weight with
  | none =>
    have written : w.alternative = w.text := by simp [alternative, own]
    rw [written, weighted?_eq_none plain.noBracket]
    simp [production, own]
  | some raw =>
    obtain ⟨x, read, finite, positive⟩ := plain.weighs raw own
    have checked : isWeight x = true := by simp [isWeight, finite, positive]
    have number : Number.ofChars? raw.toList = some x := read
    rw [plain.weighted?_weight own]
    simp [number, checked, production, own, read]

theorem isPiece_alternative : IsPiece (w.alternative).toList := by
  cases own : w.weight with
  | none =>
    have written : w.alternative = w.text := by simp [alternative, own]
    rw [written]
    exact ⟨plain.toList_ne_nil, plain.starts, plain.ends, plain.noBar⟩
  | some raw =>
    have written : (w.alternative).toList =
        w.text.toList ++ ([' ', '['] ++ raw.toList ++ [']']) := by
      simp [alternative, own]
    rw [written]
    constructor
    case nonempty => simp
    case starts =>
      rw [List.head?_append_of_ne_nil _ plain.toList_ne_nil]
      exact plain.starts
    case ends =>
      rw [← List.append_assoc, List.getLast?_concat]
      intro c mem
      obtain rfl : ']' = c := by simpa using mem
      decide
    case noBar =>
      intro mem
      rcases List.mem_append.mp mem with inside | mem
      · exact plain.noBar inside
      · have inside : '|' ∈ raw.toList := by simpa using mem
        rcases plain.decimal raw own '|' inside with digit | point
        · cases digit
        · cases point

end Written.IsPlain

/- Putting productions into a new rule. -/

theorem mapM_map_ok {α β ε γ : Type} {f : α → Except ε β} {source : γ → α} {result : γ → β}
    {items : List γ} (read : ∀ x ∈ items, f (source x) = .ok (result x)) :
    (items.map source).mapM f = .ok (items.map result) := by
  induction items with
  | nil => rfl
  | cons x items ih =>
    have rest := ih fun y mem => read y (List.mem_cons_of_mem x mem)
    rw [List.map_cons, List.mapM_cons, read x List.mem_cons_self, rest]
    rfl

theorem insertProductions_of_distinct {new old : List Production}
    (distinct : ((old ++ new).map Production.text).Nodup) :
    insertProductions new old = old ++ new := by
  unfold insertProductions
  induction new generalizing old with
  | nil => exact (List.append_nil old).symm
  | cons p new ih =>
    have parts := distinct
    rw [List.map_append, List.nodup_append] at parts
    have absent : p.text ∉ old.map Production.text := by
      intro mem
      exact parts.2.2 _ mem _ List.mem_cons_self rfl
    rw [List.foldl_cons, insertProduction_eq parts.1, if_neg absent, ih]
    · simp
    · simpa using distinct

theorem modify_concat {α : Type} (items : List α) (x : α) (f : α → α) :
    (items ++ [x]).modify items.length f = items ++ [f x] := by
  induction items with
  | nil => rfl
  | cons y items ih => simpa using ih

theorem appends_insert {g : Grammar} {name : String} (absent : g.hasRule name = false)
    {new : List Production} (distinct : (new.map Production.text).Nodup) :
    Appends g name new (g.insert name new, none) := by
  have unknown : g.index[name]? = none := by
    apply Std.HashMap.getElem?_eq_none
    rw [← Std.HashMap.contains_iff_mem, ← hasRule, absent]
    exact Bool.false_ne_true
  have whole : insertProductions new [] = new := insertProductions_of_distinct distinct
  have rules : (g.insert name new).rules = g.rules ++ [⟨name, new⟩] := by
    unfold insert place
    simp [unknown, modify_concat, whole]
  have index : (g.insert name new).index[name]? = some g.rules.length := by
    unfold insert place
    simp [unknown]
  refine ⟨rfl, rules, ?_⟩
  unfold get?
  rw [index, rules]
  exact List.getElem?_concat_length

theorem addAlternatives_of_read {g : Grammar} {name : String} {texts : List String}
    {new : List Production} (read : texts.mapM (Production.ofText 1.0) = .ok new) :
    g.addAlternatives name texts 1.0 = (g.insert name new, none) := by
  have checked : productions? name texts 1.0 = .ok new := by
    rw [productions?, if_pos (by decide), read]
  rw [addAlternatives, checked]

theorem appends_empty_text {g : Grammar} {name : String} (absent : g.hasRule name = false) :
    Appends g name [⟨"", 1.0⟩] (g.addRule name "") := by
  have cut : alternatives "" = [""] := by decide +kernel
  have one : [""].mapM (Production.ofText 1.0) = .ok [⟨"", 1.0⟩] := rfl
  rw [addRule, cut, addAlternatives_of_read one]
  exact appends_insert absent (List.nodup_singleton _)

/-- A name that has no rule gets one with just the productions that were written, from a list of
alternatives as from the text that joins them if there is one alternative or more. The text of no
alternatives makes one production, the empty one. -/
theorem rule_text_reads_back (g : Grammar) (name : String) (items : List Written)
    (absent : g.hasRule name = false) (plain : ∀ w ∈ items, w.IsPlain)
    (distinct : (items.map Written.text).Nodup) :
    Appends g name (items.map Written.production)
      (g.addAlternatives name (items.map Written.alternative) 1.0) ∧
    (items ≠ [] → g.addRule name (String.intercalate " | " (items.map Written.alternative)) =
      g.addAlternatives name (items.map Written.alternative) 1.0) ∧
    (items = [] → Appends g name [⟨"", 1.0⟩]
      (g.addRule name (String.intercalate " | " (items.map Written.alternative)))) := by
  have read : (items.map Written.alternative).mapM (Production.ofText 1.0) =
      .ok (items.map Written.production) :=
    mapM_map_ok fun w mem => (plain w mem).ofText_alternative
  refine ⟨?_, ?_, ?_⟩
  · rw [addAlternatives_of_read read]
    apply appends_insert absent
    rw [List.map_map]
    exact distinct
  · intro some_
    rw [addRule, alternatives_intercalate]
    · simpa using some_
    · rw [List.forall_mem_map]
      exact fun w mem => (plain w mem).isPiece_alternative
  · rintro rfl
    exact appends_empty_text absent

theorem rule_text_reads_back_of_three :
    let items : List Written := [⟨"a  b", some "2."⟩, ⟨"c] 7", none⟩, ⟨"d", some ".5"⟩]
    (empty.hasRule "<a>" = false ∧ (∀ w ∈ items, w.IsPlain) ∧
      (items.map Written.text).Nodup) ∧
    Appends empty "<a>" [⟨"a  b", 2.0⟩, ⟨"c] 7", 1.0⟩, ⟨"d", 0.5⟩]
      (empty.addRule "<a>" "a  b [2.] | c] 7 | d [.5]") := by
  intro items
  have absent : empty.hasRule "<a>" = false := by simp [hasRule, empty]
  have plain : ∀ w ∈ items, w.IsPlain := by
    intro w mem
    simp only [items, List.mem_cons, List.not_mem_nil, or_false] at mem
    rcases mem with rfl | rfl | rfl
    · refine ⟨by decide, by simp; decide, by simp; decide, by decide, by decide, by decide, ?_, ?_⟩
      · rintro raw ⟨⟩
        simp [Char.isDigit]
      · rintro raw ⟨⟩
        exact ⟨2.0, rfl, by decide, by decide⟩
    · refine ⟨by decide, by simp; decide, by simp; decide, by decide, by decide, by decide, ?_, ?_⟩
      · rintro raw ⟨⟩
      · rintro raw ⟨⟩
    · refine ⟨by decide, by simp; decide, by simp; decide, by decide, by decide, by decide, ?_, ?_⟩
      · rintro raw ⟨⟩
        simp [Char.isDigit]
      · rintro raw ⟨⟩
        exact ⟨0.5, rfl, by decide, by decide⟩
  have distinct : (items.map Written.text).Nodup := by decide
  obtain ⟨appends, same, _⟩ := rule_text_reads_back empty "<a>" items absent plain distinct
  have joined : String.intercalate " | " (items.map Written.alternative) =
      "a  b [2.] | c] 7 | d [.5]" := by decide
  rw [← same (by decide), joined] at appends
  exact ⟨⟨absent, plain, distinct⟩, appends⟩

/-- The text that joins no alternatives does not make a rule without productions. -/
theorem not_all_rule_texts_read_back :
    ¬ ∀ (g : Grammar) (name : String) (items : List Written), g.hasRule name = false →
      (∀ w ∈ items, w.IsPlain) → (items.map Written.text).Nodup →
      Appends g name (items.map Written.production)
        (g.addRule name (String.intercalate " | " (items.map Written.alternative))) := by
  intro all
  have absent : empty.hasRule "<a>" = false := by simp [hasRule, empty]
  have claimed := (all empty "<a>" [] absent (List.forall_mem_nil _) List.nodup_nil).rules
  have made : (empty.addRule "<a>" "").1.rules = [⟨"<a>", [⟨"", 1.0⟩]⟩] :=
    (appends_empty_text absent).rules
  cases claimed.symm.trans made

end TextGen.Grammar
