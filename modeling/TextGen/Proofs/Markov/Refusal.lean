import Mathlib
import TextGen.Proofs.Markov.Steering
import TextGen.Proofs.Text.Search

/-! When refusals come to an end.
A refused pick takes a branch away if it passed at most one marker. A pick that passed more leaves
everything as it was, so the same choice can be refused any number of times. What decides is
whether a word stands below two markers after the tokens before it. -/
namespace TextGen.Markov

open Source (fractionSteps)

def EndsWithin (m : Markov) (history : List String) (limit : Option Nat) :
    Nat → Trie → Run → Prop
  | 0, trie, _ => trie = .empty
  | choices + 1, trie, r =>
    match r.draw trie.pick with
    | (none, _) => True
    | (some p, r) =>
      match m.copied? history limit p.token with
      | none => True
      | some window =>
        m.EndsWithin history limit choices (trie.without p)
          (r.note .trace (refusal p.token window))

namespace Trie

theorem isSome_child?_of_leads (trie : Trie) (p : Pick) (h : trie.Leads p) :
    (p.markers = 0 → (trie.child? p.token).isSome) ∧
      (0 < p.markers → (trie.child? marker).isSome) := by
  obtain ⟨_, path⟩ := h
  constructor
  · intro zero
    rw [zero, List.replicate_zero, List.nil_append, isSome_count?_cons] at path
    obtain ⟨_, found, _⟩ := path
    simp [found]
  · intro positive
    obtain ⟨k, succ⟩ := Nat.exists_eq_add_one_of_ne_zero (Nat.ne_of_gt positive)
    rw [succ, List.replicate_succ, List.cons_append, isSome_count?_cons] at path
    obtain ⟨_, found, _⟩ := path
    simp [found]

theorem width_without (trie : Trie) (p : Pick) (h : trie.Leads p) (few : p.markers ≤ 1) :
    (trie.without p).width + 1 = trie.width := by
  have known := isSome_child?_of_leads trie p h
  obtain ⟨token, markers⟩ := p
  match markers with
  | 0 => exact width_erase trie token (known.1 rfl)
  | 1 => exact width_erase trie marker (known.2 Nat.one_pos)
  | k + 2 => exact absurd few (Nat.not_le_of_lt (Nat.le_add_left 2 k))

theorem without_of_two_markers (trie : Trie) (p : Pick) (many : 2 ≤ p.markers) :
    trie.without p = trie := by
  obtain ⟨token, markers⟩ := p
  match markers with
  | 0 => exact absurd many (Nat.not_le_of_lt Nat.two_pos)
  | 1 => exact absurd many (Nat.not_le_of_lt Nat.one_lt_two)
  | _ + 2 => rfl

theorem width_without_lt_iff (trie : Trie) (p : Pick) (h : trie.Leads p) :
    (trie.without p).width < trie.width ↔ p.markers ≤ 1 := by
  constructor
  · intro less
    by_contra many
    rw [without_of_two_markers trie p (by omega)] at less
    exact Nat.lt_irrefl _ less
  · intro few
    have fewer := width_without trie p h few
    omega

end Trie

variable (m : Markov) (history : List String) (limit : Option Nat)

/- The loop, when no pick passes two markers. -/

theorem endsWithin_width (trie : Trie) (proper : trie.Proper)
    (few : ∀ p, trie.Leads p → p.markers ≤ 1) (r : Run) :
    m.EndsWithin history limit trie.width trie r := by
  generalize size : trie.width = choices
  induction choices generalizing trie r with
  | zero =>
    cases trie with
    | empty => rfl
    | branch => cases size
  | succ choices ih =>
    rw [EndsWithin, Run.draw]
    cases picked : trie.pick r.source with
    | mk pick s =>
      cases pick with
      | none => trivial
      | some p =>
        have leads := trie.leads_of_pick proper r.source s p picked
        have fewer := trie.width_without p leads (few p leads)
        cases copied : m.copied? history limit p.token with
        | none => simp only [copied]
        | some window =>
          simp only [copied]
          exact ih _ (trie.proper_without proper p)
            (fun q h => few q (trie.leads_of_without proper p q h)) _ (by omega)

theorem choose_of_endsWithin (choices more : Nat) (enough : choices ≤ more) (trie : Trie) (r : Run)
    (h : m.EndsWithin history limit choices trie r) :
    m.choose history limit more trie r = m.choose history limit choices trie r := by
  induction choices generalizing more trie r with
  | zero =>
    have nothing : trie = .empty := h
    subst nothing
    cases more <;> rfl
  | succ choices ih =>
    obtain ⟨more, rfl⟩ := Nat.exists_eq_add_one_of_ne_zero (Nat.ne_of_gt (Nat.lt_of_lt_of_le
      (Nat.succ_pos choices) enough))
    rw [EndsWithin] at h
    rw [choose, choose]
    cases drawn : r.draw trie.pick with
    | mk pick r₁ =>
      cases pick with
      | none => rfl
      | some p =>
        cases copied : m.copied? history limit p.token with
        | none => simp only [copied]
        | some window =>
          simp only [drawn, copied] at h ⊢
          exact ih more (Nat.le_of_succ_le_succ enough) _ _ h

/- Every refusal gives a notice. -/

theorem notices_choose (choices allowed : Nat) (trie : Trie) (r : Run)
    (h : m.EndsWithin history limit choices trie r) :
    (m.choose history limit allowed trie r).2.notices.length ≤ r.notices.length + choices := by
  induction choices generalizing allowed trie r with
  | zero =>
    have nothing : trie = .empty := h
    subst nothing
    cases allowed <;> exact Nat.le_refl _
  | succ choices ih =>
    cases allowed with
    | zero => exact Nat.le_add_right _ _
    | succ allowed =>
      rw [EndsWithin, Run.draw] at h
      rw [choose, Run.draw]
      cases picked : trie.pick r.source with
      | mk pick s =>
        rw [picked] at h
        cases pick with
        | none => exact Nat.le_add_right _ _
        | some p =>
          cases copied : m.copied? history limit p.token with
          | none =>
            simp only [copied]
            exact Nat.le_add_right _ _
          | some window =>
            simp only [copied] at h ⊢
            have rest := ih allowed _ _ h
            simp only [Run.note, List.length_cons] at rest
            exact rest.trans (by omega)

theorem notices_choose_unlimited (allowed : Nat) (trie : Trie) (r : Run) :
    (m.choose history none allowed trie r).2.notices = r.notices := by
  cases allowed with
  | zero => rfl
  | succ allowed =>
    rw [choose, Run.draw]
    cases trie.pick r.source with
    | mk pick s => cases pick <;> rfl

/- The loop, when a pick can pass two markers. -/

theorem copied?_of_mem (token : String) (mem : token ∈ m.input) :
    m.copied? history (some 0) token = some [token] := by
  obtain ⟨front, back, split⟩ := List.append_of_mem mem
  have stands : Text.hasRun [token] m.input = true := by
    rw [Text.hasRun_iff, split]
    exact ⟨front, back, by simp⟩
  have context : lastItems 0 history = [] := List.drop_length
  rw [copied?, if_pos (Nat.zero_le _), context]
  exact if_pos stands

theorem not_endsWithin_of_pick (trie : Trie) (p : Pick) (many : 2 ≤ p.markers)
    (only : ∀ s, ∃ s', trie.pick s = (some p, s')) (window : List String)
    (refused : m.copied? history limit p.token = some window) (choices : Nat) (r : Run) :
    ¬ m.EndsWithin history limit choices trie r := by
  induction choices generalizing r with
  | zero =>
    intro nothing
    have empty : trie = .empty := nothing
    obtain ⟨s', picked⟩ := only r.source
    rw [empty] at picked
    cases picked
  | succ choices ih =>
    intro ends
    obtain ⟨s', picked⟩ := only r.source
    simp only [EndsWithin, Run.draw, picked, refused, trie.without_of_two_markers p many] at ends
    exact ih _ ends

theorem exists_not_endsWithin (trie : Trie) (proper : trie.Proper)
    (small : 2 * trie.passes ≤ fractionSteps) (p : Pick) (leads : trie.Leads p)
    (many : 2 ≤ p.markers) (mem : p.token ∈ m.input) (choices : Nat) :
    ∃ queue, ∀ state notices,
      ¬ m.EndsWithin history (some 0) choices trie ⟨⟨queue, state⟩, notices⟩ := by
  obtain ⟨words, toward⟩ := trie.exists_words_to p.markers p.token proper small leads
  induction choices with
  | zero =>
    refine ⟨[], fun _ _ nothing => ?_⟩
    have empty : trie = .empty := nothing
    have path := leads.2
    rw [empty, Trie.count?_empty] at path
    cases path
  | succ choices ih =>
    obtain ⟨queue, later⟩ := ih
    refine ⟨words ++ queue, fun state notices ends => ?_⟩
    simp only [EndsWithin, Run.draw, toward, copied?_of_mem m history p.token mem,
      trie.without_of_two_markers ⟨p.token, p.markers⟩ many] at ends
    exact later _ _ ends

end TextGen.Markov
