import Mathlib
import TextGen.Proofs.Markov.Choosing
import TextGen.Proofs.Markov.Growth
import TextGen.Proofs.Markov.Training
import TextGen.Proofs.Text.Search

/-! A limit on copies keeps generated text novel.
Every token that is added under the limit was compared, together with the tokens before it, with
the whole input. So no longer run that ends at such a token stands in the input, also when it was
only completed later or after attempts that failed. -/
namespace TextGen.Markov

/-- No run of `k + 1` tokens whose last one is at place `first` or later stands in the input. -/
def Novel (input : List String) (k first : Nat) (out : List String) : Prop :=
  ∀ i, first ≤ i + k → i + k < out.length → ¬ (out.drop i).take (k + 1) <:+: input

variable {input out tokens : List String} {k first : Nat}

theorem novel_of_length_le (short : out.length ≤ first) : Novel input k first out := by
  intro i late inside
  omega

theorem novel_append_singleton {token : String} (before : Novel input k first tokens)
    (fresh : k ≤ tokens.length → ¬ lastItems k tokens ++ [token] <:+: input) :
    Novel input k first (tokens ++ [token]) := by
  intro i late inside
  rw [List.length_append, List.length_singleton] at inside
  rw [List.drop_append_of_le_length (by omega)]
  by_cases earlier : i + k < tokens.length
  · have inner : k + 1 ≤ (tokens.drop i).length := by
      rw [List.length_drop]
      omega
    rw [List.take_append_of_le_length inner]
    exact before i late earlier
  · have last : i = tokens.length - k := by omega
    have whole : (tokens.drop i ++ [token]).length ≤ k + 1 := by
      rw [List.length_append, List.length_drop, List.length_singleton]
      omega
    rw [List.take_of_length_le whole, last]
    exact fresh (by omega)

theorem not_infix_of_novel (novel : Novel input k first out) (reach : first ≤ k)
    (w : List String) (long : w.length = k + 1) (inside : w <:+: out) : ¬ w <:+: input := by
  obtain ⟨front, back, rfl⟩ := inside
  have here := novel front.length (by omega) (by
    simp only [List.length_append]
    omega)
  rwa [List.append_assoc, List.drop_left, ← long, List.take_left] at here

/- What the limit refuses. -/

variable {m : Markov} {o : Options}

theorem not_infix_of_copied? (history : List String) (token : String)
    (h : m.copied? history (some k) token = none) (enough : k ≤ history.length) :
    ¬ lastItems k history ++ [token] <:+: m.input := by
  intro stands
  rw [copied?, if_pos enough, if_pos ((Text.hasRun_iff _ _).mpr stands)] at h
  cases h

/-- The place of the first token that may have been compared: those asked for are not, and neither
is the first of all. -/
def Options.firstCompared (o : Options) : Nat := max (o.startTokens.getD []).length 1

theorem kept_novel (limited : o.maxLengthMatch = some k) :
    m.KeptByExtension (Novel m.input k first) o.maxLengthMatch := by
  intro tokens token r r' before extended
  rw [limited] at extended
  exact novel_append_singleton before fun enough =>
    not_infix_of_copied? tokens token
      (copied?_of_extend? m (some k) tokens r r' token extended) enough

theorem start_novel (trie : Trie) :
    m.HoldsAtStart o (Novel m.input k o.firstCompared) trie := by
  intro start r r' begun
  apply novel_of_length_le
  rcases startTokens_eq_ok begun with ⟨_, rfl⟩ | ⟨_, rfl | ⟨_, _, _, rfl⟩⟩
  · exact Nat.le_max_left _ _
  · exact Nat.zero_le _
  · exact Nat.le_max_right _ 1

theorem novel_of_composed (limited : o.maxLengthMatch = some k) {text : String}
    (h : Composed m o tokens text) : Novel m.input k o.firstCompared tokens := by
  obtain ⟨_, starts, start, r₀, r₁, r₂, _, begun, filled, _, _⟩ := h
  exact of_fillUntil (kept_novel limited) _ _ start tokens r₁ r₂
    (start_novel starts start r₀ r₁ begun) filled

/-- Under a limit of `k`, no run of `k + 1` generated tokens that ends at a compared token stands in
the input, and without tokens that were asked for no such run at all. -/
theorem generated_novel (m : Markov) (o : Options) (k : Nat) (limited : o.maxLengthMatch = some k)
    (num : Nat) (r r' : Run) :
    (∀ out, m.generateTokens num o r = (.ok out, r') →
      Novel m.input k o.firstCompared out ∧
      (o.startTokens.getD [] = [] → 1 ≤ k →
        ∀ w, w.length = k + 1 → w <:+: out → ¬ w <:+: m.input)) ∧
    ∀ texts, m.generateSentences num o r = (.ok texts, r') →
      ∀ text ∈ texts, ∃ tokens, Composed m o tokens text ∧
        Novel m.input k o.firstCompared tokens ∧
        (o.startTokens.getD [] = [] → 1 ≤ k →
          ∀ w, w.length = k + 1 → w <:+: tokens → ¬ w <:+: m.input) := by
  have reach : o.startTokens.getD [] = [] → 1 ≤ k → o.firstCompared ≤ k := by
    intro free positive
    rw [Options.firstCompared, free]
    exact positive
  constructor
  · intro out generated
    have novel : Novel m.input k o.firstCompared out :=
      of_generateTokens (kept_novel limited) (start_novel m.trie)
        (novel_of_length_le (Nat.zero_le _)) num out r r' generated
    exact ⟨novel, fun free positive => not_infix_of_novel novel (reach free positive)⟩
  · intro texts generated text mem
    obtain ⟨tokens, composed⟩ := composed_of_generateSentences generated text mem
    have novel := novel_of_composed limited composed
    exact ⟨tokens, composed, novel, fun free positive =>
      not_infix_of_novel novel (reach free positive)⟩

theorem generated_novel_after_refusal :
    let m := trained 2 (by decide) .plain [.sentences ["A cat saw a dog.", "A hen saw a cat."]]
    let o : Options := { maxLengthMatch := some 4 }
    let r : Run := ⟨⟨[0, 0, 0, 0, 0, 0, 0xF000000000000000], 0⟩, []⟩
    o.maxLengthMatch = some 4 ∧
      ((m.generateTokens 5 o r).1 = .ok ["A", "cat", "saw", "a", "cat"] ∧
        ∀ w, w.length = 5 → w <:+: ["A", "cat", "saw", "a", "cat"] → ¬ w <:+: m.input) ∧
      ((m.generateSentences 1 o r).1 = .ok ["A cat saw a cat."] ∧
        ∃ tokens, Composed m o tokens "A cat saw a cat." ∧ Novel m.input 4 1 tokens) := by
  intro m o r
  have tokens : (m.generateTokens 5 o r).1 = .ok ["A", "cat", "saw", "a", "cat"] := by
    decide +kernel
  have sentences : (m.generateSentences 1 o r).1 = .ok ["A cat saw a cat."] := by decide +kernel
  refine ⟨rfl, ⟨tokens, ?_⟩, ⟨sentences, ?_⟩⟩
  · exact ((generated_novel m o 4 rfl 5 r _).1 _ (Prod.ext tokens rfl)).2 rfl (by decide)
  · obtain ⟨behind, composed, novel, _⟩ :=
      (generated_novel m o 4 rfl 1 r _).2 _ (Prod.ext sentences rfl) _ List.mem_cons_self
    exact ⟨behind, composed, novel⟩

end TextGen.Markov
