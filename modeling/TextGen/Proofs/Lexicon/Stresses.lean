import Mathlib
import TextGen.Lexicon.Search
import TextGen.Proofs.Lexicon.Limits
import TextGen.Proofs.Pattern.Plain

/-! Searching for stresses.
A pattern of stress digits and the stresses of a word are both spread out, with a stroke between two
digits. So the one stands in the other exactly if it did so before. -/
namespace TextGen.Lexicon

def stressBits (e : Entry) : List Char :=
  (syllables e.phones.toList).map fun syllable => if '1' ∈ syllable then '1' else '0'

variable {l : Lexicon} {o : SearchOptions} {p : String}

/- Spread texts. -/

section Spread

variable {α : Type} {sep x : α} {a b : List α}

theorem intersperse_prefix_iff : a.intersperse sep <+: b.intersperse sep ↔ a <+: b := by
  induction a generalizing b with
  | nil => simp
  | cons x a ih =>
    cases b with
    | nil => cases a <;> simp
    | cons y b =>
      cases a with
      | nil => cases b <;> simp
      | cons u a =>
        cases b with
        | nil => simp
        | cons v b =>
          rw [List.intersperse_cons_cons, List.intersperse_cons_cons, List.cons_prefix_cons,
            List.cons_prefix_cons, ih, List.cons_prefix_cons (a := x), and_iff_right rfl]

theorem not_intersperse_prefix_cons (nonempty : a ≠ []) (apart : sep ∉ a) (rest : List α) :
    ¬ a.intersperse sep <+: sep :: rest := by
  obtain ⟨x, items, rfl⟩ := List.exists_cons_of_ne_nil nonempty
  have other : x ≠ sep := fun same => apart (same ▸ List.mem_cons_self)
  cases items with
  | nil => simpa using other
  | cons y items => simp [List.intersperse_cons_cons, other]

theorem intersperse_infix_iff (nonempty : a ≠ []) (apart : sep ∉ a) :
    a.intersperse sep <:+: b.intersperse sep ↔ a <:+: b := by
  induction b with
  | nil =>
    rw [List.intersperse_nil, List.infix_nil, List.infix_nil, ← List.prefix_nil, ← List.prefix_nil]
    exact intersperse_prefix_iff (b := [])
  | cons y b ih =>
    have here : a.intersperse sep <+: (y :: b).intersperse sep ↔ a <+: y :: b :=
      intersperse_prefix_iff
    have later : a <:+: y :: b ↔ a <+: y :: b ∨ a <:+: b := List.infix_cons_iff
    rw [later, ← ih, ← here]
    cases b with
    | nil => simp [List.infix_cons_iff]
    | cons z b =>
      have between := not_intersperse_prefix_cons nonempty apart ((z :: b).intersperse sep)
      rw [List.intersperse_cons_cons, List.infix_cons_iff, List.infix_cons_iff, iff_false_intro between,
        false_or]

theorem mem_of_mem_intersperse (mem : x ∈ a.intersperse sep) : x = sep ∨ x ∈ a := by
  induction a with
  | nil => cases mem
  | cons y a ih =>
    cases a with
    | nil => exact .inr mem
    | cons z a =>
      rw [List.intersperse_cons_cons] at mem
      rcases List.mem_cons.mp mem with rfl | mem
      · exact .inr List.mem_cons_self
      · rcases List.mem_cons.mp mem with rfl | mem
        · exact .inl rfl
        · exact (ih mem).imp_right (List.mem_cons_of_mem y)

theorem flatten_intersperse (a : List α) :
    ((a.map ([·])).intersperse [sep]).flatten = a.intersperse sep := by
  induction a with
  | nil => rfl
  | cons y a ih =>
    cases a with
    | nil => rfl
    | cons z a =>
      rw [List.intersperse_cons_cons, ← ih]
      rfl

end Spread

/- Stresses and patterns. -/

theorem toList_intercalate_singletons (digits : List Char) :
    (String.intercalate "/" (digits.map String.singleton)).toList = digits.intersperse '/' := by
  have single : String.toList ∘ String.singleton = ([·]) := funext String.toList_singleton
  rw [String.toList_intercalate, List.map_map, single, ← flatten_intersperse, List.intercalate]
  rfl

theorem toList_stressText (e : Entry) : e.stressText.toList = (stressBits e).intersperse '/' := by
  have digit (syllable : List Char) : (if isStressed syllable then "1" else "0") =
      String.singleton (if '1' ∈ syllable then '1' else '0') := by
    by_cases stressed : '1' ∈ syllable
    · rw [if_pos stressed, if_pos (by simpa [isStressed] using stressed)]
      rfl
    · rw [if_neg stressed, if_neg (by simpa [isStressed] using stressed)]
      rfl
  rw [Entry.stressText, List.map_congr_left fun syllable _ => digit syllable, stressBits,
    ← toList_intercalate_singletons, List.map_map]
  rfl

def mostDigits : Nat := 163837

structure StressDigits (p : String) : Prop where
  nonempty : p ≠ ""
  digits : ∀ c ∈ p.toList, c = '0' ∨ c = '1'

namespace StressDigits

theorem toList_searchPattern (h : StressDigits p) :
    (searchPattern .stresses p).toList = p.toList.intersperse '/' := by
  have all : p.toList.all (fun c => c = '0' || c = '1') = true := by simpa using h.digits
  rw [searchPattern, if_pos ⟨rfl, all⟩, toList_intercalate_singletons]

theorem toList_ne_nil (h : StressDigits p) : p.toList ≠ [] := by simpa using h.nonempty

theorem infix_iff (h : StressDigits p) (e : Entry) :
    (searchPattern .stresses p).toList <:+: e.stressText.toList ↔ p.toList <:+: stressBits e := by
  rw [h.toList_searchPattern, toList_stressText]
  refine intersperse_infix_iff h.toList_ne_nil fun mem => ?_
  rcases h.digits '/' mem with same | same <;> cases same

theorem mem_searchPattern (h : StressDigits p) {c : Char}
    (mem : c ∈ (searchPattern .stresses p).toList) : c = '/' ∨ c = '0' ∨ c = '1' := by
  rw [h.toList_searchPattern] at mem
  exact (mem_of_mem_intersperse mem).imp_right (h.digits c)

theorem searchPattern_ne_empty (h : StressDigits p) : searchPattern .stresses p ≠ "" := by
  intro empty
  have none := h.toList_searchPattern
  rw [empty] at none
  have length := congrArg List.length none
  rw [List.length_intersperse] at length
  have some_ := List.length_pos_iff.mpr h.toList_ne_nil
  simp only [String.toList_empty, List.length_nil] at length
  omega

theorem utf8ByteSize_searchPattern (h : StressDigits p) :
    (searchPattern .stresses p).utf8ByteSize = 2 * p.length - 1 := by
  have ascii : ∀ c ∈ (searchPattern .stresses p).toList, c.utf8Size = 1 := by
    intro c mem
    rcases h.mem_searchPattern mem with rfl | rfl | rfl <;> rfl
  rw [← String.utf8Len_toList, Pattern.utf8Len_of_ascii ascii, h.toList_searchPattern,
    List.length_intersperse, String.length_toList]

theorem plain_searchPattern (h : StressDigits p) :
    ∀ c ∈ (searchPattern .stresses p).toList, c ∉ Pattern.signs := by
  intro c mem
  rcases h.mem_searchPattern mem with rfl | rfl | rfl <;> decide

theorem short_searchPattern_iff (h : StressDigits p) :
    (searchPattern .stresses p).utf8ByteSize ≤ Pattern.longestText ↔ p.length ≤ mostDigits := by
  rw [h.utf8ByteSize_searchPattern, Pattern.longestText, mostDigits]
  omega

theorem takenLiterally_iff (h : StressDigits p) :
    Pattern.TakenLiterally (searchPattern .stresses p) ↔ p.length ≤ mostDigits := by
  rw [Pattern.takenLiterally_iff h.plain_searchPattern h.searchPattern_ne_empty,
    h.short_searchPattern_iff]

theorem ofText?_eq_none (h : StressDigits p) (long : mostDigits < p.length) :
    Pattern.ofText? (searchPattern .stresses p) = none := by
  rw [Pattern.ofText?_of_plain h.plain_searchPattern h.searchPattern_ne_empty]
  exact if_neg (mt h.short_searchPattern_iff.mp (Nat.not_le.mpr long))

end StressDigits

def withStresses (t : Table) (digits : List Char) : List String :=
  (t.filter fun item => digits <:+: stressBits item.2).map (·.1)

/-- Without a limit a search for stress digits finds the accepted words whose stresses hold them in
a row, as long as the spread pattern is taken literally. That is so up to a length; longer patterns
are refused. -/
theorem stress_search_finds (answers : l.fatal = true → l.table.isSome = true)
    (h : StressDigits p) (kind : o.searchType = .stresses) (free : o.limit = none) (r : Run) :
    (Pattern.TakenLiterally (searchPattern .stresses p) →
      (l.search p o r).1 = .ok (withStresses (o.accepted (l.table.getD [])) p.toList)) ∧
    (Pattern.TakenLiterally (searchPattern .stresses p) ↔ p.length ≤ mostDigits) ∧
    (mostDigits < p.length → (l.search p o r).1 = .error .pattern) := by
  refine ⟨?_, h.takenLiterally_iff, fun long => ?_⟩
  · rintro ⟨pattern, read, matching⟩
    have finds (e : Entry) : pattern.isMatch e.stressText = decide (p.toList <:+: stressBits e) := by
      rw [Bool.eq_iff_iff, matching, h.infix_iff, decide_eq_true_eq]
    rw [search, ask_getD answers, Table.search, kind, read]
    simp only [SearchType.subject, collect_eq_filter_accepted free, finds, withStresses]
  · rw [search, ask_getD answers, Table.search, kind, h.ofText?_eq_none long]

theorem stress_search_finds_banana :
    let t : Table := [("banana", ⟨"b-ah n-ae1 n-ah", "nn"⟩), ("cat", ⟨"k-ae1-t", "nn"⟩),
      ("garden", ⟨"g-aa1-r d-ah-n", "nn"⟩), ("hotel", ⟨"hh-ow t-eh1-l", "nn"⟩)]
    let l : Lexicon := { table := some t }
    let o : SearchOptions := { searchType := .stresses }
    ((l.fatal = true → l.table.isSome = true) ∧ StressDigits "10" ∧ o.searchType = .stresses ∧
      o.limit = none) ∧ ∀ r, (l.search "10" o r).1 = .ok ["banana", "garden"] := by
  intro t l o
  have answers : l.fatal = true → l.table.isSome = true := fun _ => rfl
  have digits : StressDigits "10" := ⟨by decide, by simp⟩
  refine ⟨⟨answers, digits, rfl, rfl⟩, fun r => ?_⟩
  obtain ⟨found, literal, _⟩ := stress_search_finds (o := o) answers digits rfl rfl r
  have short : "10".length ≤ mostDigits := by decide +kernel
  rw [found (literal.mpr short)]
  have words : withStresses (o.accepted (l.table.getD [])) "10".toList = ["banana", "garden"] := by
    decide +kernel
  rw [words]

end TextGen.Lexicon
