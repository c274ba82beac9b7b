import Mathlib
import TextGen.Proofs.Grammar.Stopping
import TextGen.Proofs.Text.Runs

/-! Names in angle brackets.
If every name is a text in angle brackets, and every bracket in a production belongs to a pair, then
every derived text is of that kind too. A name cannot stand across the end of such a text, because a
bracket would be open there. -/
namespace TextGen.Grammar

open Relation (ReflTransGen)

/-- Whether a bracket is open behind a text, if one was open before it or not. None if a bracket is
opened in another one, or closed without being open. -/
def bracketOpen : Bool → List Char → Option Bool
  | isOpen, [] => some isOpen
  | isOpen, c :: text =>
    if c = '<' then if isOpen then none else bracketOpen true text
    else if c = '>' then if isOpen then bracketOpen false text else none
    else bracketOpen isOpen text

def Paired (text : List Char) : Prop := bracketOpen false text = some false

instance (text : List Char) : Decidable (Paired text) :=
  inferInstanceAs (Decidable (bracketOpen false text = some false))

/-- Names in brackets, and productions in which all brackets are paired. -/
structure Bracketed (rules : List Rule) : Prop where
  name : ∀ r ∈ rules, ∃ inner : List Char,
    r.name.toList = '<' :: (inner ++ ['>']) ∧ '<' ∉ inner ∧ '>' ∉ inner
  production : ∀ r ∈ rules, ∀ p ∈ r.productions, Paired p.text.toList

theorem bracketOpen_append (isOpen : Bool) (x y : List Char) :
    bracketOpen isOpen (x ++ y) = (bracketOpen isOpen x).bind (bracketOpen · y) := by
  induction x generalizing isOpen with
  | nil => rfl
  | cons c x ih =>
    simp only [List.cons_append, bracketOpen]
    split_ifs
    · rfl
    · exact ih true
    · exact ih false
    · rfl
    · exact ih isOpen

theorem bracketOpen_of_plain {text : List Char} (noOpen : '<' ∉ text) (noClose : '>' ∉ text)
    (isOpen : Bool) : bracketOpen isOpen text = some isOpen := by
  induction text with
  | nil => rfl
  | cons c text ih =>
    simp only [List.mem_cons, not_or] at noOpen noClose
    rw [bracketOpen, if_neg (Ne.symm noOpen.1), if_neg (Ne.symm noClose.1),
      ih noOpen.2 noClose.2]

theorem Paired.append {x y : List Char} (first : Paired x) (second : Paired y) :
    Paired (x ++ y) := by
  unfold Paired
  rw [bracketOpen_append, first]
  exact second

variable {inner : List Char}

theorem bracketOpen_name (noOpen : '<' ∉ inner) (noClose : '>' ∉ inner) (isOpen : Bool) :
    bracketOpen isOpen ('<' :: (inner ++ ['>'])) = if isOpen then none else some false := by
  rw [bracketOpen, if_pos rfl, bracketOpen_append, bracketOpen_of_plain noOpen noClose]
  rfl

theorem Paired.beside {before after : List Char} (noOpen : '<' ∉ inner) (noClose : '>' ∉ inner)
    (paired : Paired (before ++ '<' :: (inner ++ ['>']) ++ after)) :
    Paired before ∧ Paired after := by
  unfold Paired at paired
  rw [bracketOpen_append, bracketOpen_append] at paired
  cases left : bracketOpen false before with
  | none => simp [left] at paired
  | some isOpen =>
    rw [left, Option.bind_some, bracketOpen_name noOpen noClose] at paired
    cases isOpen with
    | true => cases paired
    | false => exact ⟨left, paired⟩

theorem Paired.apart {x : List Char} (paired : Paired x) (noOpen : '<' ∉ inner)
    (noClose : '>' ∉ inner) (y : List Char) : Text.Apart ('<' :: (inner ++ ['>'])) x y := by
  intro u v same
  by_contra across
  rw [not_or, not_le, not_le] at across
  obtain ⟨part, rfl⟩ : u <+: x := by
    have begins : u <+: x ++ y := ⟨_, by rw [← same, List.append_assoc]⟩
    exact List.prefix_of_prefix_length_le begins (List.prefix_append x y) across.2.le
  have shorter : part.length ≤ inner.length + 1 := by simpa using across.1
  have within : part <+: '<' :: (inner ++ ['>']) := by
    rw [List.append_assoc, List.append_assoc, List.append_cancel_left_eq] at same
    apply List.prefix_of_prefix_length_le ⟨y, same.symm⟩ (List.prefix_append _ v)
    simpa using shorter.trans (Nat.le_succ _)
  cases part with
  | nil => simp at across
  | cons c part =>
    -- the name begins before the end of the text, and its closing bracket stands behind it
    obtain ⟨rfl, rest⟩ := List.cons_prefix_cons.mp within
    have plain : part <+: inner := by
      apply List.prefix_of_prefix_length_le rest (List.prefix_append inner ['>'])
      simpa using shorter
    have noOpen : '<' ∉ part := fun mem => noOpen (plain.subset mem)
    have noClose : '>' ∉ part := fun mem => noClose (plain.subset mem)
    unfold Paired at paired
    rw [bracketOpen_append] at paired
    cases left : bracketOpen false u with
    | none => simp [left] at paired
    | some isOpen =>
      rw [left, Option.bind_some, bracketOpen, if_pos rfl,
        bracketOpen_of_plain noOpen noClose] at paired
      cases isOpen with
      | true => cases paired
      | false => cases paired

variable {g : Grammar} {start text : List Char}

theorem Bracketed.apart {rules : List Rule} (h : Bracketed rules) {x : List Char}
    (paired : Paired x) (y : List Char) : ∀ r ∈ rules, Text.Apart r.name.toList x y := by
  intro r mem
  obtain ⟨inner, name, noOpen, noClose⟩ := h.name r mem
  rw [name]
  exact paired.apart noOpen noClose y

theorem Bracketed.paired_outcome {rules : List Rule} (h : Bracketed rules) {r : Rule}
    (mem : r ∈ rules) : ∀ outcome ∈ r.outcomes, Paired outcome.toList := by
  unfold Rule.outcomes
  split
  · simp only [List.forall_mem_singleton]
    rfl
  · rw [List.forall_mem_map]
    exact h.production r mem

theorem Bracketed.paired_of_reached (h : Bracketed g.rules) (paired : Paired start)
    (reached : ReflTransGen g.Rewrites start text) : Paired text := by
  induction reached with
  | refl => exact paired
  | tail _ step ih =>
    obtain ⟨r, before, after, found, outcome, inside, rfl⟩ := step
    obtain ⟨mem, rfl⟩ := applicable?_eq_some found
    obtain ⟨inner, name, noOpen, noClose⟩ := h.name r mem
    rw [name] at ih
    obtain ⟨left, right⟩ := ih.beside noOpen noClose
    exact (left.append (h.paired_outcome mem outcome inside)).append right

theorem Bracketed.seamless (h : Bracketed g.rules) (paired : Paired start) :
    g.Seamless start := by
  intro text r before after reached found outcome inside other named
  have whole := h.paired_of_reached paired reached
  obtain ⟨mem, rfl⟩ := applicable?_eq_some found
  obtain ⟨inner, name, noOpen, noClose⟩ := h.name r mem
  rw [name] at whole
  have left := (whole.beside noOpen noClose).1
  have put := left.append (h.paired_outcome mem outcome inside)
  exact ⟨h.apart left _ other named, h.apart put _ other named⟩

theorem takeWhile_of_plain {text : List Char} {c : Char} (absent : c ∉ text) :
    text.takeWhile (· ≠ c) = text := by
  rw [List.takeWhile_eq_self_iff]
  intro d mem
  have apart : d ≠ c := fun same => absent (same ▸ mem)
  simpa using apart

theorem occurrences_name {other : List Char} (noOpen : '<' ∉ inner) (noClose : '>' ∉ inner)
    (otherOpen : '<' ∉ other) (otherClose : '>' ∉ other) :
    Text.occurrences ('<' :: (inner ++ ['>'])) ('<' :: (other ++ ['>'])) =
      if other = inner then 1 else 0 := by
  have later : Text.occurrences ('<' :: (inner ++ ['>'])) (other ++ ['>']) = 0 := by
    apply Text.occurrences_eq_zero
    intro inside
    have bracket : '<' ∈ other ++ ['>'] := inside.subset List.mem_cons_self
    simp [otherOpen] at bracket
  have first : '<' :: (inner ++ ['>']) <+: '<' :: (other ++ ['>']) ↔ other = inner := by
    constructor
    · intro begins
      obtain ⟨v, same⟩ := (List.cons_prefix_cons.mp begins).2
      rw [List.append_assoc, List.singleton_append] at same
      have fronts := congrArg (List.takeWhile (· ≠ '>')) same
      rw [Text.takeWhile_append_stop inner v (by decide),
        Text.takeWhile_append_stop other [] (by decide), takeWhile_of_plain noClose,
        takeWhile_of_plain otherClose] at fronts
      exact fronts.symm
    · rintro rfl
      exact List.prefix_rfl
  rw [Text.occurrences, later, Nat.add_zero]
  simp only [first]

theorem Bracketed.named {rules : List Rule} (h : Bracketed rules) : Named rules := by
  intro r mem empty
  obtain ⟨inner, name, _⟩ := h.name r mem
  rw [empty] at name
  cases name

end TextGen.Grammar
