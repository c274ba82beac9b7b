import Mathlib
import TextGen.Markov.Generate

/-! How generated tokens grow.
Every generator begins with some tokens and adds one at a time. What holds of the first tokens and
is kept by every token that is added holds of all tokens that are generated, however many attempts
failed before. -/
namespace TextGen.Markov

variable (m : Markov) (o : Options) (P : List String → Prop)

/-- The property is kept by every token that may follow under the limit on copies. -/
def KeptByExtension (limit : Option Nat) : Prop :=
  ∀ tokens token r r', P tokens → m.extend? limit tokens r = (some token, r') →
    P (tokens ++ [token])

def HoldsAtStart (trie : Trie) : Prop :=
  ∀ start r r', m.startTokens o trie r = (.ok start, r') → P start

variable {m o P}

theorem of_fill {limit : Option Nat} (kept : m.KeptByExtension P limit) (missing : Nat)
    (tokens out : List String) (r r' : Run) (start : P tokens)
    (h : m.fill limit missing tokens r = (some out, r')) : P out := by
  induction missing generalizing tokens r with
  | zero =>
    cases h
    exact start
  | succ missing ih =>
    rw [fill] at h
    split at h
    · cases h
    · rename_i token r₁ extended
      exact ih _ _ (kept tokens token r r₁ start extended) h

theorem of_fillUntil {limit : Option Nat} (kept : m.KeptByExtension P limit)
    (test : String → Bool) (room : Nat) (tokens out : List String) (r r' : Run)
    (start : P tokens) (h : m.fillUntil limit test room tokens r = (some out, r')) : P out := by
  induction room generalizing tokens r with
  | zero => cases h
  | succ room ih =>
    rw [fillUntil] at h
    split at h
    · cases h
    · rename_i token r₁ extended
      have next := kept tokens token r r₁ start extended
      split at h
      · cases h
        exact next
      · exact ih _ _ next h

/-- What is added are tokens that fail the test and a last one that satisfies it, no more of them
than there is room for. -/
theorem fillUntil_eq_some {limit : Option Nat} {test : String → Bool} {room : Nat}
    {tokens out : List String} {r r' : Run}
    (h : m.fillUntil limit test room tokens r = (some out, r')) :
    ∃ middle last, out = tokens ++ middle ++ [last] ∧ test last = true ∧
      (∀ token ∈ middle, test token = false) ∧ middle.length < room := by
  induction room generalizing tokens r with
  | zero => cases h
  | succ room ih =>
    rw [fillUntil] at h
    split at h
    · cases h
    · rename_i token r₁ extended
      split at h
      · rename_i satisfied
        cases h
        exact ⟨[], token, by rw [List.append_nil], satisfied, nofun, Nat.succ_pos room⟩
      · rename_i failed
        obtain ⟨middle, last, rfl, satisfied, others, short⟩ := ih h
        refine ⟨token :: middle, last, ?_, satisfied, ?_, Nat.succ_lt_succ short⟩
        · rw [List.append_assoc tokens, List.singleton_append]
        · exact List.forall_mem_cons.mpr ⟨Bool.eq_false_of_not_eq_true failed, others⟩

theorem of_tokensFrom (kept : m.KeptByExtension P o.maxLengthMatch)
    (first : m.HoldsAtStart o P m.trie) (num left : Nat) (out : List String) (r r' : Run)
    (h : m.tokensFrom num o left r = (.ok out, r')) : P out := by
  induction left generalizing r with
  | zero => cases h
  | succ left ih =>
    rw [tokensFrom] at h
    split at h
    · cases h
    · rename_i start r₁ begun
      split at h
      · rename_i tokens r₂ filled
        cases h
        exact of_fill kept _ start out r₁ r' (first start r r₁ begun) filled
      · exact ih _ h

theorem of_generateTokens (kept : m.KeptByExtension P o.maxLengthMatch)
    (first : m.HoldsAtStart o P m.trie) (none : P []) (num : Nat) (out : List String)
    (r r' : Run) (h : m.generateTokens num o r = (.ok out, r')) : P out := by
  rw [generateTokens] at h
  split at h
  · cases h
    exact none
  · split at h
    · cases h
    · exact of_tokensFrom kept first num attempts out r r' h

theorem startTokens_eq_ok {trie : Trie} {start : List String} {r r' : Run}
    (h : m.startTokens o trie r = (.ok start, r')) :
    (o.startTokens.getD [] ≠ [] ∧ start = o.startTokens.getD []) ∨
      (o.startTokens.getD [] = [] ∧
        (start = [] ∨ ∃ p s, trie.pick r.source = (some p, s) ∧ start = [p.token])) := by
  rw [startTokens] at h
  split at h
  · rename_i free
    refine .inr ⟨free, ?_⟩
    cases picked : trie.pick r.source with
    | mk pick s =>
      simp only [Run.draw, picked, Prod.mk.injEq, Except.ok.injEq] at h
      obtain ⟨rfl, _⟩ := h
      cases pick with
      | none => exact .inl rfl
      | some p => exact .inr ⟨p, s, rfl, rfl⟩
  · rename_i asked
    split at h
    · cases h
      exact .inl ⟨asked, rfl⟩
    · cases h

/- Sentences. -/

/-- The tokens that were put together to the text: begun from the tree below the marker, and filled
up to a token that ends sentences. -/
def Composed (m : Markov) (o : Options) (tokens : List String) (text : String) : Prop :=
  ∃ count starts start r₀ r₁ r₂, m.trie.child? marker = some (count, starts) ∧
    m.startTokens o starts r₀ = (.ok start, r₁) ∧
    m.fillUntil o.maxLengthMatch Token.endsSentence (o.maxLength - start.length) start r₁ =
      (some tokens, r₂) ∧
    o.minLength ≤ tokens.length ∧ m.tokenizer.join tokens = text

/-- What is asked of the text of a sentence that is to stand behind others. -/
structure Admitted (before : List String) (text : String) : Prop where
  new : text ∉ before
  upperCase : ∃ first rest, text.toList = first :: rest ∧ Unicode.isUppercase first = true

theorem sentence?_eq_some {before tokens : List String} {text : String} {r r' : Run}
    (h : m.sentence? before tokens r = (some text, r')) :
    m.tokenizer.join tokens = text ∧ Admitted before text := by
  simp only [sentence?] at h
  split at h
  · cases h
  · rename_i first rest letters
    split at h
    · cases h
    · rename_i upper
      split at h
      · cases h
      · split at h
        · cases h
        · rename_i new
          cases h
          exact ⟨rfl, new, first, rest, letters, by simpa using upper⟩

theorem attemptSentence_eq_some {before start : List String} {text : String} {r r' : Run}
    (h : m.attemptSentence o before start r = (some text, r')) :
    ∃ tokens r₁, m.fillUntil o.maxLengthMatch Token.endsSentence (o.maxLength - start.length)
        start r = (some tokens, r₁) ∧
      o.minLength ≤ tokens.length ∧ m.tokenizer.join tokens = text ∧ Admitted before text := by
  simp only [attemptSentence] at h
  split at h
  · cases h
  · rename_i tokens r₁ filled
    split at h
    · cases h
    · rename_i long
      exact ⟨tokens, r₁, filled, Nat.le_of_not_lt long, sentence?_eq_some h⟩

theorem sentenceStart_eq_ok {starts : Trie} {start : List String} {r r' : Run}
    (h : m.sentenceStart o starts r = (.ok start, r')) :
    m.startTokens o starts r = (.ok start, r') ∧ start ≠ [] := by
  rw [sentenceStart] at h
  split at h
  · cases h
  · rename_i other
    refine ⟨h, ?_⟩
    rintro rfl
    exact other r' h

/-- The property is kept by every sentence that is accepted behind others. -/
def KeptBySentence (m : Markov) (o : Options) (starts : Trie) (Q : List String → Prop) : Prop :=
  ∀ before start text r r₁ r₂, Q before → m.sentenceStart o starts r = (.ok start, r₁) →
    m.attemptSentence o before start r₁ = (some text, r₂) → Q (before ++ [text])

theorem of_sentencesFrom {Q : List String → Prop} {starts : Trie}
    (kept : m.KeptBySentence o starts Q) (num missing spare : Nat) (before texts : List String)
    (r r' : Run) (earlier : Q before)
    (h : m.sentencesFrom num o starts missing spare before r = (.ok texts, r')) :
    Q texts ∧ texts.length = before.length + missing := by
  induction missing, spare, before, r using sentencesFrom.induct m o starts with
  | case1 spare before r =>
    rw [sentencesFrom] at h
    cases h
    exact ⟨earlier, rfl⟩
  | case2 spare before r fewer e r₁ failed =>
    rw [sentencesFrom, failed] at h
    cases h
  | case3 spare before r fewer start r₁ begun text r₂ accepted ih =>
    rw [sentencesFrom, begun] at h
    simp only [accepted] at h
    obtain ⟨holds, length⟩ := ih (kept before start text r r₁ r₂ earlier begun accepted) h
    refine ⟨holds, ?_⟩
    rw [length, List.length_append, List.length_singleton]
    omega
  | case4 before r fewer start r₁ begun r₂ refused =>
    rw [sentencesFrom, begun] at h
    simp only [refused] at h
    cases h
  | case5 before r fewer start r₁ begun r₂ refused spare ih =>
    rw [sentencesFrom, begun] at h
    simp only [refused] at h
    exact ih earlier h

theorem of_generateSentences {Q : List String → Prop}
    (kept : ∀ count starts, m.trie.child? marker = some (count, starts) →
      m.KeptBySentence o starts Q)
    (none : Q []) {num : Nat} {texts : List String} {r r' : Run}
    (h : m.generateSentences num o r = (.ok texts, r')) : Q texts ∧ texts.length = num := by
  rw [generateSentences] at h
  split at h
  · cases h
  · rename_i count starts known
    have all := of_sentencesFrom (kept count starts known) num num (attempts - 1) [] texts r r'
      none h
    rwa [List.length_nil, Nat.zero_add] at all

theorem composed_of_generateSentences {num : Nat} {texts : List String} {r r' : Run}
    (h : m.generateSentences num o r = (.ok texts, r')) :
    ∀ text ∈ texts, ∃ tokens, Composed m o tokens text := by
  let Known (texts : List String) : Prop := ∀ text ∈ texts, ∃ tokens, Composed m o tokens text
  have kept : ∀ count starts, m.trie.child? marker = some (count, starts) →
      m.KeptBySentence o starts Known := by
    intro count starts known before start text r r₁ r₂ earlier begun accepted
    obtain ⟨tokens, r₃, filled, long, joined, _⟩ := attemptSentence_eq_some accepted
    refine List.forall_mem_append.mpr ⟨earlier, List.forall_mem_singleton.mpr ⟨tokens, ?_⟩⟩
    exact ⟨count, starts, start, r, r₁, r₃, known, (sentenceStart_eq_ok begun).1, filled, long,
      joined⟩
  exact (of_generateSentences kept nofun h).1

end TextGen.Markov
