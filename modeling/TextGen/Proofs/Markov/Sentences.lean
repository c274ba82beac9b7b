import Mathlib
import TextGen.Proofs.Markov.Growth
import TextGen.Proofs.Markov.Training

/-! The sentences that are returned.
There are as many as were asked for, and no two are the same. Each is joined from a seed and the
tokens up to the first one behind it that ends sentences; it starts with an upper-case letter. -/
namespace TextGen.Markov

variable {m : Markov} {o : Options}

/-- A sentence begins with the tokens that are asked for, or with a single one. -/
def Options.IsSeed (o : Options) (seed : List String) : Prop :=
  if o.startTokens.getD [] = [] then seed.length = 1 else seed = o.startTokens.getD []

/-- A text that is joined from a seed, tokens that do not end sentences, and one that does. -/
structure IsSentence (m : Markov) (o : Options) (seed middle : List String) (last text : String) :
    Prop where
  joined : m.tokenizer.join (seed ++ middle ++ [last]) = text
  seeded : o.IsSeed seed
  long : o.minLength ≤ (seed ++ middle ++ [last]).length
  short : (seed ++ middle ++ [last]).length ≤ o.maxLength
  ends : last ∈ [".", "!", "?"]
  inner : ∀ token ∈ middle, token ∉ [".", "!", "?"]
  upperCase : ∃ first rest, text.toList = first :: rest ∧ Unicode.isUppercase first = true

theorem isSeed_of_sentenceStart {starts : Trie} {start : List String} {r r' : Run}
    (h : m.sentenceStart o starts r = (.ok start, r')) : o.IsSeed start := by
  obtain ⟨begun, nonempty⟩ := sentenceStart_eq_ok h
  rw [Options.IsSeed]
  rcases startTokens_eq_ok begun with ⟨asked, same⟩ | ⟨free, none | ⟨p, s, _, one⟩⟩
  · rw [if_neg asked, same]
  · exact absurd none nonempty
  · rw [if_pos free, one]
    rfl

theorem isSentence_of_accepted {starts : Trie} {before start : List String} {text : String}
    {r r₁ r₂ : Run} (begun : m.sentenceStart o starts r = (.ok start, r₁))
    (accepted : m.attemptSentence o before start r₁ = (some text, r₂)) :
    text ∉ before ∧ ∃ middle last, IsSentence m o start middle last text := by
  obtain ⟨_, _, filled, long, joined, admitted⟩ := attemptSentence_eq_some accepted
  obtain ⟨middle, last, rfl, satisfied, others, short⟩ := fillUntil_eq_some filled
  refine ⟨admitted.new, middle, last, joined, isSeed_of_sentenceStart begun, long, ?_,
    (Token.endsSentence_iff last).mp satisfied, fun token mem ends => ?_, admitted.upperCase⟩
  · simp only [List.length_append, List.length_singleton]
    omega
  · rw [← Token.endsSentence_iff, others token mem] at ends
    cases ends

/-- The sentences that are returned are as many as were asked for, all different, and each is joined
from a seed and the tokens up to the first behind it that ends sentences, within the limits. -/
theorem generateSentences_wellFormed (m : Markov) (num : Nat) (o : Options) (r r' : Run)
    (texts : List String) (h : m.generateSentences num o r = (.ok texts, r')) :
    texts.length = num ∧ texts.Nodup ∧
      ∀ text ∈ texts, ∃ seed middle last, IsSentence m o seed middle last text := by
  let Formed (texts : List String) : Prop := texts.Nodup ∧
    ∀ text ∈ texts, ∃ seed middle last, IsSentence m o seed middle last text
  have kept : ∀ starts, m.KeptBySentence o starts Formed := by
    intro starts before start text r r₁ r₂ earlier begun accepted
    obtain ⟨new, middle, last, sentence⟩ := isSentence_of_accepted begun accepted
    refine ⟨by simpa using earlier.1.concat new, List.forall_mem_append.mpr ⟨earlier.2, ?_⟩⟩
    exact List.forall_mem_singleton.mpr ⟨start, middle, last, sentence⟩
  obtain ⟨⟨distinct, formed⟩, length⟩ :=
    of_generateSentences (fun _ starts _ => kept starts) ⟨List.nodup_nil, nofun⟩ h
  exact ⟨length, distinct, formed⟩

theorem generateSentences_wellFormed_after_duplicate :
    let m := trained 2 (by decide) .plain [.text "The cat sat. The dog ran."]
    let o : Options := { minLength := 4, maxLength := 4 }
    let r : Run := ⟨⟨[0, 0, 0, 0, 0, 0, 0, 0, 0, 0xF000000000000000, 0, 0], 0⟩, []⟩
    let texts := ["The cat sat.", "The dog ran."]
    (m.generateSentences 2 o r).1 = .ok texts ∧ texts.length = 2 ∧ texts.Nodup ∧
      ∀ text ∈ texts, ∃ seed middle last, IsSentence m o seed middle last text := by
  intro m o r texts
  have returned : (m.generateSentences 2 o r).1 = .ok texts := by decide +kernel
  exact ⟨returned, generateSentences_wellFormed m 2 o r _ texts (Prod.ext returned rfl)⟩

end TextGen.Markov
