import Mathlib
import TextGen.Proofs.Markov.Choosing
import TextGen.Proofs.Markov.Growth

/-! Generated text is attested.
Every run of at most `n` tokens that a model of order `n` generates stands in its input. A token
that was reached through markers is next to the tokens before it there, because markers are not
kept. -/
namespace TextGen.Markov

/-- All runs of at most `n` of the tokens stand in the input. -/
def Attested (n : Nat) (input tokens : List String) : Prop :=
  ∀ w, w.length ≤ n → w <:+: tokens → w <:+: input

theorem attested_nil (n : Nat) (input : List String) : Attested n input [] := by
  intro w _ inside
  rw [List.infix_nil.mp inside]
  exact List.nil_infix

theorem suffix_lastItems {w tokens : List String} {k : Nat} (h : w <:+ tokens)
    (short : w.length ≤ k) : w <:+ lastItems k tokens := by
  have longest : lastItems k tokens <:+ tokens := List.drop_suffix _ tokens
  refine List.suffix_of_suffix_length_le h longest ?_
  have bound := h.length_le
  rw [lastItems, List.length_drop]
  omega

theorem attested_append_singleton {n : Nat} {input tokens : List String} {token : String}
    (h : Attested n input tokens) (last : lastItems (n - 1) tokens ++ [token] <:+: input) :
    Attested n input (tokens ++ [token]) := by
  intro w short inside
  rcases List.infix_concat_iff.mp inside with ending | earlier
  · rcases List.suffix_concat_iff.mp ending with rfl | ⟨v, rfl, before⟩
    · exact List.nil_infix
    · have room : v.length ≤ n - 1 := by
        rw [List.length_append, List.length_singleton] at short
        omega
      obtain ⟨front, split⟩ := suffix_lastItems before room
      refine List.IsInfix.trans (List.IsSuffix.isInfix ⟨front, ?_⟩) last
      rw [← split, List.append_assoc]
  · exact h w short earlier

/- What was counted stands in the input, without its markers. -/

theorem filter_path (context : List String) (free : marker ∉ context) (markers : Nat)
    (token : String) (other : token ≠ marker) :
    (context ++ (List.replicate markers marker ++ [token])).filter (· ≠ marker) =
      context ++ [token] := by
  have all : context.filter (· ≠ marker) = context :=
    List.filter_eq_self.mpr fun x mem => decide_eq_true fun same => free (same ▸ mem)
  rw [List.filter_append, List.filter_append, all, List.filter_replicate]
  simp [other]

variable {n : Nat} (pos : 0 < n) {t : Tokenizer} {loads : List Load}

theorem infix_input_of_isWindow (clean : ∀ ts, Load.tokens ts ∈ loads → marker ∉ ts)
    (w : List String) (h : IsWindow n (batches t loads) w) :
    w.filter (· ≠ marker) <:+: (trained n pos t loads).input := by
  obtain ⟨_, _, batch, mem, inside⟩ := h
  obtain ⟨l, loaded, rfl⟩ := List.mem_map.mp mem
  have keep := kept_eq_filter t l fun ts same => clean ts (same ▸ loaded)
  rw [input_trained]
  refine (inside.filter (· ≠ marker)).trans ?_
  rw [← keep, List.flatMap_def]
  exact List.infix_of_mem_flatten (List.mem_map_of_mem loaded)

/-- The tokens are attested, and there is no marker among them. -/
def Faithful (m : Markov) (tokens : List String) : Prop :=
  marker ∉ tokens ∧ Attested m.order m.input tokens

theorem faithful_append_singleton (clean : ∀ ts, Load.tokens ts ∈ loads → marker ∉ ts)
    (tokens : List String) (token : String) (markers : Nat) (other : token ≠ marker)
    (h : Faithful (trained n pos t loads) tokens)
    (known : ((trained n pos t loads).trie.count?
      (lastItems (n - 1) tokens ++ (List.replicate markers marker ++ [token]))).isSome) :
    Faithful (trained n pos t loads) (tokens ++ [token]) := by
  have free : marker ∉ lastItems (n - 1) tokens := fun mem => h.1 (List.mem_of_mem_drop mem)
  have window := (isSome_count?_trained n pos t loads _).mp known
  have stands := infix_input_of_isWindow pos clean _ window
  rw [filter_path _ free markers token other] at stands
  refine ⟨?_, attested_append_singleton h.2 (by rw [order_trained]; exact stands)⟩
  simp [h.1, Ne.symm other]

theorem generateTokens_attested (clean : ∀ ts, Load.tokens ts ∈ loads → marker ∉ ts)
    (num : Nat) (o : Options) (free : o.startTokens.getD [] = []) (r r' : Run)
    (out : List String) (h : (trained n pos t loads).generateTokens num o r = (.ok out, r')) :
    ∀ w, w.length ≤ n → w <:+: out → w <:+: (trained n pos t loads).input := by
  let m := trained n pos t loads
  have proper : m.trie.Proper := proper_trained n pos t loads
  have order : m.order = n := order_trained n pos t loads
  have empty : Faithful m [] := ⟨List.not_mem_nil, attested_nil _ _⟩
  have kept : m.KeptByExtension (Faithful m) o.maxLengthMatch := by
    intro tokens token r r' before extended
    obtain ⟨other, markers, known⟩ :=
      leads_of_extend? m o.maxLengthMatch proper tokens r r' token extended
    rw [order] at known
    exact faithful_append_singleton pos clean tokens token markers other before known
  have first : m.HoldsAtStart o (Faithful m) m.trie := by
    intro start r r' begun
    rcases startTokens_eq_ok begun with ⟨asked, _⟩ | ⟨_, rfl | ⟨p, s, picked, rfl⟩⟩
    · exact absurd free asked
    · exact empty
    · obtain ⟨other, known⟩ := m.trie.leads_of_pick proper r.source s p picked
      have context : lastItems (n - 1) ([] : List String) = [] := List.drop_nil
      refine faithful_append_singleton pos clean [] p.token p.markers other empty ?_
      rw [context]
      exact known
  have faithful := of_generateTokens kept first empty num out r r' h
  rw [Faithful, order] at faithful
  exact faithful.2

theorem generateTokens_attested_across_marker :
    let loads : List Load := [.sentences ["a b.", "c a"], .tokens ["b", "c"]]
    let m := trained 4 (by decide) .plain loads
    let r : Run := ⟨⟨[0x8000000000000000, 0, 0, 0], 0⟩, []⟩
    (∀ ts, Load.tokens ts ∈ loads → marker ∉ ts) ∧
      m.generateTokens 3 {} r = (.ok ["b", ".", "c"], ⟨⟨[], 0⟩, []⟩) ∧
      ∀ w, w.length ≤ 4 → w <:+: ["b", ".", "c"] → w <:+: m.input := by
  intro loads m r
  have clean : ∀ ts, Load.tokens ts ∈ loads → marker ∉ ts := by
    intro ts mem
    have same : ts = ["b", "c"] := by simpa [loads] using mem
    subst same
    decide
  have run : m.generateTokens 3 {} r = (.ok ["b", ".", "c"], ⟨⟨[], 0⟩, []⟩) := by decide +kernel
  exact ⟨clean, run, generateTokens_attested (by decide) clean 3 {} rfl r _ _ run⟩

end TextGen.Markov
