import Mathlib
import TextGen.Proofs.Unicode.LowerCase

/-! Texts put in lower case a second time.
No code point that the table makes is one that it moves, so the second time changes nothing. Code
points are collected in the bits of a number, and the numbers of both kinds have no bit in common.
The table is read from the characters of its lines, since a text takes long to be evaluated. -/
namespace TextGen.Unicode

open TextGen.Text (splitOn)

/- What a table moves. -/

/-- The code points that the runs make. -/
def Runs.targets (runs : Runs) : List Nat :=
  runs.toList.flatMap fun (first, r) => (r.sources first).map r.move

variable {runs : Runs} {n m : Nat}

theorem mem_sources_of_step {first : Nat} {r : Run} (low : first ≤ n) (high : n ≤ r.last)
    (step : (n - first) % r.step = 0) : n ∈ r.sources first := by
  apply List.mem_range'.mpr
  have whole := Nat.div_add_mod (n - first) r.step
  have count : (n - first) / r.step ≤ (r.last - first) / r.step :=
    Nat.div_le_div_right (Nat.sub_le_sub_right high first)
  exact ⟨(n - first) / r.step, Nat.lt_succ_of_le count, by omega⟩

theorem mem_of_entry {i first : Nat} {r : Run} (entry : runs[i]? = some (first, r))
    (hit : (if first ≤ n ∧ n ≤ r.last ∧ (n - first) % r.step = 0 then some (r.move n) else none) =
      some m) : n ∈ runs.sources ∧ m ∈ runs.targets := by
  obtain ⟨⟨low, high, step⟩, made⟩ := Option.ite_none_right_eq_some.mp hit
  have held : (first, r) ∈ runs.toList := Array.mem_toList_iff.mpr (Array.mem_of_getElem? entry)
  have source := mem_sources_of_step low high step
  constructor
  · exact List.mem_flatMap.mpr ⟨(first, r), held, source⟩
  · obtain rfl := Option.some.inj made
    exact List.mem_flatMap.mpr ⟨(first, r), held, List.mem_map_of_mem source⟩

theorem mem_of_map? (moved : runs.map? n = some m) : n ∈ runs.sources ∧ m ∈ runs.targets := by
  rcases Option.or_eq_some_iff.mp moved with here | ⟨_, before⟩
  · dsimp only at here
    split at here
    · next entry => exact mem_of_entry entry here
    · cases here
  · dsimp only at before
    split at before
    · split at before
      · next entry => exact mem_of_entry entry before
      · cases before
    · cases before

/- The table of lower-case forms. -/

def mask (points : List Nat) : Nat := points.foldr (fun n m => m ||| 1 <<< n) 0

theorem testBit_mask (points : List Nat) : (mask points).testBit n = true ↔ n ∈ points := by
  induction points with
  | nil => simp [mask]
  | cons k points ih =>
    have bit : (1 <<< k).testBit n = decide (k = n) := by
      rw [Nat.one_shiftLeft, Nat.testBit_two_pow]
    rw [mask, List.foldr_cons, ← mask, Nat.testBit_or, bit, Bool.or_eq_true, ih, List.mem_cons,
      decide_eq_true_eq, or_comm, eq_comm]

theorem not_mem_of_mask {a b : List Nat} (apart : mask a &&& mask b = 0) (inside : n ∈ a) :
    n ∉ b := by
  intro both
  have bit : (mask a &&& mask b).testBit n = true := by
    rw [Nat.testBit_and, (testBit_mask a).mpr inside, (testBit_mask b).mpr both, Bool.and_self]
  rw [apart, Nat.zero_testBit] at bit
  cases bit

def Runs.ofItems (items : List (List Char)) : Runs :=
  let entry (item : List Char) : Nat × Run :=
    let up := item.contains '+'
    let sides := splitOn (if up then '+' else '~') item
    let range := sides.headD []
    let distance : Int := ofHex (sides.getLastD [])
    let step := if range.contains '/' then 2 else 1
    let ends := splitOn '-' ((splitOn '/' range).headD [])
    (ofHex (ends.headD []), ⟨ofHex (ends.getLastD []), step, if up then distance else -distance⟩)
  items.map entry |>.toArray

theorem Runs.ofLines_eq (texts : List (List Char)) :
    Runs.ofLines (texts.map String.ofList) = Runs.ofItems (texts.flatMap (splitOn ' ')) := by
  simp only [ofLines, ofItems, items, List.flatMap_map, String.toList_ofList]

theorem cons_map_ofList {line : String} {lines : List String} {text : List Char}
    {texts : List (List Char)} (first : line = String.ofList text)
    (later : lines = texts.map String.ofList) :
    line :: lines = (text :: texts).map String.ofList := by
  rw [first, later, List.map_cons]

/-- Code points that are made in lower-case forms, those outside the table first. -/
def madeBy (runs : Runs) : List Nat := 0x307 :: 0x3c2 :: 0x3c3 :: runs.targets

def movedBy (runs : Runs) : List Nat :=
  0x130 :: 0x3a3 :: (List.range' 0x41 26 ++ runs.sources)

theorem exists_lowerRuns : ∃ texts : List (List Char),
    lowerRuns = Runs.ofLines (texts.map String.ofList) ∧
      let runs := Runs.ofItems (texts.flatMap (splitOn ' '))
      mask (madeBy runs) &&& mask (movedBy runs) = 0 := by
  apply Exists.intro
  apply And.intro
  · apply congrArg Runs.ofLines
    repeat apply cons_map_ofList rfl
    exact List.map_nil.symm
  · decide +kernel

theorem not_moved_of_made (made : n ∈ madeBy lowerRuns) : n ∉ movedBy lowerRuns := by
  obtain ⟨texts, read, apart⟩ := exists_lowerRuns
  rw [Runs.ofLines_eq] at read
  rw [read] at made ⊢
  exact not_mem_of_mask apart made

/- Characters that are their own lower-case forms. -/

def Lowered (c : Char) : Prop := lowerChar c = [c] ∧ c ≠ 'Σ'

theorem lowered_toLower {c : Char} (ascii : c.toNat < 128) : Lowered c.toLower := by
  have all : ∀ n < 128, (Char.ofNat n).toLower.toNat < 128 ∧
      (Char.ofNat n).toLower.toLower = (Char.ofNat n).toLower ∧ (Char.ofNat n).toLower ≠ 'Σ' := by
    decide +kernel
  obtain ⟨small, same, other⟩ := all c.toNat ascii
  rw [Char.ofNat_toNat] at small same other
  exact ⟨by rw [lowerChar, if_pos small, same], other⟩

theorem toLower_ofNat (ascii : (Char.ofNat m).toNat < 128) (small : m ∉ List.range' 0x41 26) :
    (Char.ofNat m).toLower = Char.ofNat m := by
  have all : ∀ n < 128, n ∉ List.range' 0x41 26 → (Char.ofNat n).toLower = Char.ofNat n := by
    decide +kernel
  have letter : (Char.ofNat m).toNat ∉ List.range' 0x41 26 := by
    rw [Char.toNat_ofNat m]
    split
    · exact small
    · decide
  have same := all _ ascii letter
  rwa [Char.ofNat_toNat] at same

theorem toNat_ofNat_of_large (large : ¬ (Char.ofNat m).toNat < 128) : (Char.ofNat m).toNat = m := by
  rw [Char.toNat_ofNat m] at large ⊢
  split at large
  · next valid => rw [if_pos valid]
  · exact absurd (by decide) large

theorem lowered_of_made (made : m ∈ madeBy lowerRuns) : Lowered (Char.ofNat m) := by
  have still := not_moved_of_made made
  have parts : m ≠ 0x130 ∧ m ≠ 0x3a3 ∧ m ∉ List.range' 0x41 26 ∧ m ∉ lowerRuns.sources := by
    simpa only [movedBy, List.mem_cons, List.mem_append, not_or] using still
  by_cases ascii : (Char.ofNat m).toNat < 128
  · have lowered := lowered_toLower ascii
    rwa [toLower_ofNat ascii parts.2.2.1] at lowered
  · have code := toNat_ofNat_of_large ascii
    constructor
    · have none : lowerRuns.map? m = none := Option.eq_none_iff_forall_ne_some.mpr
        fun k moved => parts.2.2.2 (mem_of_map? moved).1
      rw [lowerChar, if_neg ascii, code, if_neg parts.1, none]
    · intro sigma
      apply parts.2.1
      rw [← code, sigma]
      rfl

theorem lowered_of_mem_lowerChar {c d : Char} (other : c ≠ 'Σ') (mem : d ∈ lowerChar c) :
    Lowered d := by
  by_cases ascii : c.toNat < 128
  · rw [lowerChar, if_pos ascii] at mem
    rw [List.mem_singleton.mp mem]
    exact lowered_toLower ascii
  · by_cases dotted : c.toNat = 0x130
    · rw [lowerChar, if_neg ascii, if_pos dotted] at mem
      rcases List.mem_cons.mp mem with rfl | mark
      · have letter : 'i'.toNat < 128 := by decide
        exact lowered_toLower letter
      · rw [List.mem_singleton.mp mark]
        apply lowered_of_made
        simp [madeBy]
    · cases moved : lowerRuns.map? c.toNat with
      | none =>
        have same : lowerChar c = [c] := by rw [lowerChar, if_neg ascii, if_neg dotted, moved]
        rw [same] at mem
        rw [List.mem_singleton.mp mem]
        exact ⟨same, other⟩
      | some m =>
        rw [lowerChar, if_neg ascii, if_neg dotted, moved] at mem
        rw [List.mem_singleton.mp mem]
        apply lowered_of_made
        simp [madeBy, (mem_of_map? moved).2]

theorem lowered_of_mem_lowerFrom {before text : List Char} {d : Char}
    (mem : d ∈ lowerFrom before text) : Lowered d := by
  induction text generalizing before with
  | nil => cases mem
  | cons c text ih =>
    rcases List.mem_append.mp mem with here | later
    · split at here
      · have form : d = Char.ofNat 0x3c2 ∨ d = Char.ofNat 0x3c3 := by
          split at here
          · exact .inl (List.mem_singleton.mp here)
          · exact .inr (List.mem_singleton.mp here)
        rcases form with rfl | rfl
        all_goals
          apply lowered_of_made
          simp [madeBy]
      · next other => exact lowered_of_mem_lowerChar other here
    · exact ih later

theorem lowerFrom_eq_self {before text : List Char} (lowered : ∀ c ∈ text, Lowered c) :
    lowerFrom before text = text := by
  induction text generalizing before with
  | nil => rfl
  | cons c text ih =>
    rw [List.forall_mem_cons] at lowered
    rw [lowerFrom, if_neg lowered.1.2, lowered.1.1, ih lowered.2]
    rfl

theorem lowercase_lowercase (s : String) : lowercase (lowercase s) = lowercase s := by
  have lowered : ∀ c ∈ (lowercase s).toList, Lowered c := by
    intro c mem
    rw [lowercase, String.toList_ofList] at mem
    exact lowered_of_mem_lowerFrom mem
  rw [lowercase, lowerFrom_eq_self lowered, String.ofList_toList]

end TextGen.Unicode
