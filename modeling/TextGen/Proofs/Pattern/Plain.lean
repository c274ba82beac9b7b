import Mathlib
import TextGen.Pattern.Reader
import TextGen.Proofs.Text.Occurrences

/-! Plain texts as patterns.
A text without signs that have a meaning of their own is read as the pattern of just this text, if
it is not too long. The pattern matches the texts in which it stands. -/
namespace TextGen.Pattern

def signs : List Char := "\\.+*?()|[\x7b^$".toList

variable {c : Char} {cs before text : List Char}

/- Matching. -/

theorem ends_literal_ne_nil_iff (p : Place) : (literal cs).ends p ≠ [] ↔ cs <+: p.after := by
  rw [ends]
  cases dropped : Text.dropPrefix? cs p.after with
  | none => simpa using Text.dropPrefix?_eq_none_iff.mp dropped
  | some rest => simpa using ⟨rest, (Text.dropPrefix?_eq_some_iff.mp dropped).symm⟩

theorem matchesFrom_literal : (literal cs).matchesFrom before text = true ↔ cs <:+: text := by
  induction text generalizing before with
  | nil =>
    have here : (literal cs).ends ⟨before, []⟩ ≠ [] ↔ cs <+: [] := ends_literal_ne_nil_iff _
    rw [matchesFrom, List.infix_nil, ← List.prefix_nil, ← here]
    simp
  | cons c text ih =>
    have here : (literal cs).ends ⟨before, c :: text⟩ ≠ [] ↔ cs <+: c :: text :=
      ends_literal_ne_nil_iff _
    rw [matchesFrom, Bool.or_eq_true, ih, List.infix_cons_iff, ← here]
    simp

theorem isMatch_literal (s : String) : (literal cs).isMatch s = true ↔ cs <:+: s.toList :=
  matchesFrom_literal

/- Reading. -/

theorem primitive?_of_plain (plain : c ∉ signs) (rest : List Char) :
    primitive? {} (c :: rest) = some (⟨literal [c], 0⟩, rest) := by
  rw [primitive?]
  · rfl
  all_goals
    rintro rfl
    exact plain (by decide)

theorem body?_cons (plain : c ∉ signs) (g : Progress) (rest : List Char) :
    body? {} g (c :: rest) = (body? {} (g.push (some ⟨literal [c], 0⟩)) rest).map
      fun b => (b.within (Nat.le_succ rest.length) : Body (c :: rest)) := by
  have same : ({} : Flags).skip (c :: rest) = c :: rest := rfl
  have other {d : Char} {later : List Char} (isSign : d ∈ signs)
      (begins : ({} : Flags).skip (c :: rest) = d :: later) : False :=
    plain ((List.cons.inj (same.symm.trans begins)).1 ▸ isSign)
  rw [body?]
  split
  case h_1 empty => cases empty
  case h_2 later begins => exact (other (by decide) begins).elim
  case h_3 later begins => exact (other (by decide) begins).elim
  case h_4 later begins => exact (other (by decide) begins).elim
  case h_5 =>
    have single : "?*+\x7b".toList.contains c = false := by
      have within : "?*+\x7b".toList ⊆ signs := by decide
      simpa using fun mem => plain (within mem)
    simp only [same, List.head?_cons, single, primitive?_of_plain plain]
    simp

theorem exists_body?_of_plain (plain : ∀ c ∈ text, c ∉ signs) (g : Progress) :
    ∃ b, body? {} g text = some b ∧ b.rest = [] ∧
      b.progress = { g with items := (text.map fun c => some ⟨literal [c], 0⟩).reverse ++ g.items } := by
  induction text generalizing g with
  | nil =>
    refine ⟨⟨g, [], Nat.zero_le 0⟩, ?_, rfl, rfl⟩
    rw [body?]
    rfl
  | cons c text ih =>
    obtain ⟨first, plain⟩ := List.forall_mem_cons.mp plain
    obtain ⟨b, read, done, progress⟩ := ih plain (g.push (some ⟨literal [c], 0⟩))
    refine ⟨b.within (Nat.le_succ text.length), ?_, done, ?_⟩
    · rw [body?_cons first, read]
      rfl
    · rw [Body.within, progress, Progress.push]
      simp

theorem joinTexts_map_literal (c : Char) (text : List Char) :
    joinTexts ((c :: text).map fun d => literal [d]) = [literal (c :: text)] := by
  induction text generalizing c with
  | nil => rfl
  | cons d text ih =>
    rw [List.map_cons, joinTexts, ih]
    rfl

theorem foldl_max_eq_zero {depths : List Nat} (flat : ∀ n ∈ depths, n = 0) :
    depths.foldl max 0 = 0 := by
  induction depths with
  | nil => rfl
  | cons n depths ih =>
    obtain ⟨rfl, later⟩ := List.forall_mem_cons.mp flat
    exact ih later

theorem sequenceOf_literals (nonempty : cs ≠ []) :
    let whole := sequenceOf (cs.map fun c => some ⟨literal [c], 0⟩).reverse
    whole.value = literal cs ∧ whole.depth ≤ 1 := by
  intro whole
  obtain ⟨c, text, rfl⟩ := List.exists_cons_of_ne_nil nonempty
  constructor
  · have items : ((c :: text).map fun d => literal [d]).flatMap parts =
        (c :: text).map fun d => literal [d] := by
      rw [List.flatMap_map]
      exact List.map_eq_flatMap.symm
    show sequence _ = _
    rw [List.reverse_reverse, List.filterMap_map]
    show sequence ((c :: text).filterMap fun d => some (literal [d])) = _
    rw [List.filterMap_eq_map', sequence, items, joinTexts_map_literal]
    rfl
  · have flat : (((c :: text).map fun d => some (⟨literal [d], 0⟩ : Nested Pattern)).reverse.filterMap
        fun part => part.map (·.depth)).foldl max 0 = 0 := by
      refine foldl_max_eq_zero fun n mem => ?_
      obtain ⟨part, inside, depth⟩ := List.mem_filterMap.mp mem
      obtain ⟨d, _, rfl⟩ := List.mem_map.mp (List.mem_reverse.mp inside)
      exact (Option.some.inj depth).symm
    show depthOf _ ≤ 1
    rw [depthOf]
    simp only [flat]
    split
    · exact Nat.zero_le 1
    · exact Nat.le_refl 1

/- Size. -/

theorem foldl_utf8Size (cs : List Char) (n : Nat) :
    (cs.map Char.utf8Size).foldl (· + ·) n = n + String.utf8Len cs := by
  induction cs generalizing n with
  | nil => rfl
  | cons c cs ih =>
    rw [List.map_cons, List.foldl_cons, ih, String.utf8Len_cons]
    omega

theorem utf8Len_of_ascii {text : List Char} (ascii : ∀ c ∈ text, c.utf8Size = 1) :
    String.utf8Len text = text.length := by
  induction text with
  | nil => rfl
  | cons c text ih =>
    obtain ⟨one, ascii⟩ := List.forall_mem_cons.mp ascii
    rw [String.utf8Len_cons, ih ascii, one, List.length_cons]

def longestText : Nat := 327673

theorem isSmall_literal_iff (cs : List Char) :
    (literal cs).isSmall = true ↔ String.utf8Len cs ≤ longestText := by
  have bytes (backward : Bool) : (Automaton.ofPattern backward (literal cs)).bytes =
      32 * String.utf8Len cs + if backward then 144 else 208 := by
    cases backward with
    | false | true =>
      simp only [Automaton.ofPattern, startsAtStart, endsAtEnd, Automaton.addPattern,
        Automaton.join, Automaton.isOpen, Automaton.link, Automaton.add, Automaton.bytes,
        foldl_utf8Size, Bool.false_eq_true, if_true, if_false]
      omega
  simp only [isSmall, Automaton.isTooLarge, bytes, Automaton.limit, longestText, Bool.and_eq_true,
    Bool.not_eq_true', decide_eq_false_iff_not, if_true, Bool.false_eq_true, if_false]
  omega

/- Whole patterns. -/

theorem ofText?_of_plain {s : String} (plain : ∀ c ∈ s.toList, c ∉ signs) (nonempty : s ≠ "") :
    ofText? s = if s.utf8ByteSize ≤ longestText then some (literal s.toList) else none := by
  obtain ⟨⟨g, rest, short⟩, read, done, progress⟩ := exists_body?_of_plain plain {}
  obtain rfl : rest = [] := done
  have some_ : s.toList ≠ [] := by simpa using nonempty
  obtain ⟨value, depth⟩ := sequenceOf_literals some_
  have whole : g.whole = sequenceOf (s.toList.map fun c => some ⟨literal [c], 0⟩).reverse := by
    have items : g = { items := (s.toList.map fun c => some ⟨literal [c], 0⟩).reverse ++ [] } :=
      progress
    rw [items, List.append_nil]
    rfl
  have shallow : g.whole.depth ≤ depthLimit := by
    rw [whole]
    exact depth.trans (by decide)
  have small : g.whole.value.isSmall = true ↔ s.utf8ByteSize ≤ longestText := by
    rw [whole, value, isSmall_literal_iff, String.utf8Len_toList]
  rw [ofText?, read]
  simp only [shallow, small, true_and]
  rw [whole, value]

/-- The text is a pattern that matches just the texts in which it stands. -/
def TakenLiterally (s : String) : Prop :=
  ∃ p, ofText? s = some p ∧ ∀ text, p.isMatch text = true ↔ s.toList <:+: text.toList

theorem takenLiterally_iff {s : String} (plain : ∀ c ∈ s.toList, c ∉ signs) (nonempty : s ≠ "") :
    TakenLiterally s ↔ s.utf8ByteSize ≤ longestText := by
  rw [TakenLiterally, ofText?_of_plain plain nonempty]
  constructor
  · rintro ⟨p, read, _⟩
    by_contra long
    rw [if_neg long] at read
    cases read
  · intro short
    exact ⟨_, if_pos short, isMatch_literal⟩

end TextGen.Pattern
