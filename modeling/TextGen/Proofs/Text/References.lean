import Mathlib

/-! Character references and what decoding them once comes to.
A reference is an ampersand, a body and a semicolon, and its kind says what the body stands for. A
text is decoded from left to right, and no character that decoding makes is looked at again. Two
kinds can be decoded together or one after the other. The results are the same exactly if the first
decoding makes no reference of the second kind where none was before; otherwise the second one finds
more to decode, and its result is shorter. -/
namespace TextGen.Text.Entity

/-- A kind of references, given by what stands between the ampersand and the semicolon. -/
@[ext]
structure Kind where
  meaning? : List Char → Option Char
  enclosed : ∀ body c, meaning? body = some c → '&' ∉ body ∧ ';' ∉ body

namespace Kind

def Begins (k : Kind) (text : List Char) : Prop :=
  ∃ body c rest, k.meaning? body = some c ∧ text = '&' :: (body ++ ';' :: rest)

/-- Each reference is exchanged for its character, and all other characters are kept. -/
inductive Decodes (k : Kind) : List Char → List Char → Prop
  | done : Decodes k [] []
  | reference {body rest out : List Char} {c : Char} (means : k.meaning? body = some c)
      (later : Decodes k rest out) : Decodes k ('&' :: (body ++ ';' :: rest)) (c :: out)
  | kept {rest out : List Char} {c : Char} (plain : ¬ k.Begins (c :: rest))
      (later : Decodes k rest out) : Decodes k (c :: rest) (c :: out)

def or (m n : Kind) : Kind where
  meaning? body := (m.meaning? body).or (n.meaning? body)
  enclosed body c means := by
    rcases Option.or_eq_some_iff.mp means with first | ⟨_, second⟩
    · exact m.enclosed body c first
    · exact n.enclosed body c second

/-- Wherever a text that `m` decodes goes on with a reference of `n`, it did so before. -/
def Apart (m n : Kind) (text : List Char) : Prop :=
  ∀ s out, s <:+ text → m.Decodes s out → n.Begins out → n.Begins s

def Disjoint (m n : Kind) : Prop := ∀ body, m.meaning? body = none ∨ n.meaning? body = none

/-- No character that `m` makes stands in references of `n`, save for the ampersand. -/
def Foreign (m n : Kind) : Prop :=
  ∀ body c, n.meaning? body = some c → ∀ d ∈ body ++ [';'], ∀ other, m.meaning? other ≠ some d

variable {k m n : Kind} {text rest out body front : List Char} {c : Char}

theorem or_assoc (k m n : Kind) : (k.or m).or n = k.or (m.or n) := by
  apply Kind.ext
  funext body
  exact Option.or_assoc

@[simp]
theorem or_disjoint : (m.or n).Disjoint k ↔ m.Disjoint k ∧ n.Disjoint k := by
  simp only [Disjoint, or, Option.or_eq_none_iff, and_or_right, forall_and]

@[simp]
theorem disjoint_or : k.Disjoint (m.or n) ↔ k.Disjoint m ∧ k.Disjoint n := by
  simp only [Disjoint, or, Option.or_eq_none_iff, or_and_left, forall_and]

theorem of_meaning?_or (means : (m.or n).meaning? body = some c) :
    m.meaning? body = some c ∨ n.meaning? body = some c := by
  rcases Option.or_eq_some_iff.mp means with first | ⟨_, second⟩
  · exact .inl first
  · exact .inr second

/- Where references begin. -/

theorem body_unique {body' rest' : List Char} (free : ';' ∉ body) (free' : ';' ∉ body')
    (same : body ++ ';' :: rest = body' ++ ';' :: rest') : body = body' ∧ rest = rest' := by
  rcases List.append_eq_append_iff.mp same with
    ⟨_ | ⟨c, mid⟩, rfl, tail⟩ | ⟨_ | ⟨c, mid⟩, rfl, tail⟩
  · exact ⟨(List.append_nil body).symm, (List.cons.inj tail).2⟩
  · obtain ⟨rfl, -⟩ := List.cons.inj tail
    simp at free'
  · exact ⟨List.append_nil body', (List.cons.inj tail).2.symm⟩
  · obtain ⟨rfl, -⟩ := List.cons.inj tail
    simp at free

theorem begins_iff_meaning (free : ';' ∉ body) :
    k.Begins ('&' :: (body ++ ';' :: rest)) ↔ (k.meaning? body).isSome = true := by
  constructor
  · rintro ⟨body', c, rest', means, whole⟩
    obtain ⟨rfl, -⟩ := body_unique free (k.enclosed body' c means).2 (List.cons.inj whole).2
    exact Option.isSome_of_mem means
  · intro known
    obtain ⟨c, means⟩ := Option.isSome_iff_exists.mp known
    exact ⟨body, c, rest, means, rfl⟩

theorem not_begins_of_ne (other : c ≠ '&') : ¬ k.Begins (c :: rest) := by
  rintro ⟨body, c', rest', _, whole⟩
  exact other (List.cons.inj whole).1

theorem begins_or : (m.or n).Begins text ↔ m.Begins text ∨ n.Begins text := by
  constructor
  · rintro ⟨body, c, rest, means, rfl⟩
    rcases of_meaning?_or means with first | second
    · exact .inl ⟨body, c, rest, first, rfl⟩
    · exact .inr ⟨body, c, rest, second, rfl⟩
  · rintro (⟨body, c, rest, means, rfl⟩ | ⟨body, c, rest, means, rfl⟩)
    · exact ⟨body, c, rest, by simp [or, means], rfl⟩
    · cases first : m.meaning? body with
      | none => exact ⟨body, c, rest, by simp [or, first, means], rfl⟩
      | some d => exact ⟨body, d, rest, by simp [or, first], rfl⟩

/- One decoding. -/

namespace Decodes

theorem of_nil (h : k.Decodes [] out) : out = [] := by
  cases h
  rfl

theorem of_kept (plain : ¬ k.Begins (c :: rest)) (h : k.Decodes (c :: rest) out) :
    ∃ later, out = c :: later ∧ k.Decodes rest later := by
  generalize whole : c :: rest = text at h
  cases h with
  | done => cases whole
  | reference means _ => exact absurd ⟨_, _, _, means, whole⟩ plain
  | kept _ later =>
    cases whole
    exact ⟨_, rfl, later⟩

theorem of_reference (means : k.meaning? body = some c)
    (h : k.Decodes ('&' :: (body ++ ';' :: rest)) out) :
    ∃ later, out = c :: later ∧ k.Decodes rest later := by
  have free := (k.enclosed body c means).2
  generalize whole : '&' :: (body ++ ';' :: rest) = text at h
  cases h with
  | done => cases whole
  | reference own later =>
    obtain ⟨rfl, rfl⟩ := body_unique free (k.enclosed _ _ own).2 (List.cons.inj whole).2
    cases means.symm.trans own
    exact ⟨_, rfl, later⟩
  | kept plain _ => exact absurd ⟨_, _, _, means, whole.symm⟩ plain

theorem of_front (free : '&' ∉ front) (h : k.Decodes (front ++ rest) out) :
    ∃ later, out = front ++ later ∧ k.Decodes rest later := by
  induction front generalizing out with
  | nil => exact ⟨out, rfl, h⟩
  | cons c front ih =>
    rw [List.mem_cons, not_or] at free
    obtain ⟨next, rfl, behind⟩ := of_kept (not_begins_of_ne (Ne.symm free.1)) h
    obtain ⟨later, rfl, final⟩ := ih free.2 behind
    exact ⟨later, rfl, final⟩

theorem of_enclosed (unknown : k.meaning? body = none) (free : '&' ∉ body) (ends : ';' ∉ body)
    (h : k.Decodes ('&' :: (body ++ ';' :: rest)) out) :
    ∃ later, out = '&' :: (body ++ ';' :: later) ∧ k.Decodes rest later := by
  have plain : ¬ k.Begins ('&' :: (body ++ ';' :: rest)) := by
    rw [begins_iff_meaning ends, unknown]
    exact Bool.false_ne_true
  obtain ⟨next, rfl, behind⟩ := of_kept plain h
  have whole : body ++ ';' :: rest = (body ++ [';']) ++ rest := by simp
  rw [whole] at behind
  obtain ⟨later, rfl, final⟩ := of_front (by simp [free]) behind
  exact ⟨later, by simp, final⟩

theorem of_out_front (foreign : ∀ c ∈ front, ∀ body, k.meaning? body ≠ some c)
    (h : k.Decodes text (front ++ out)) : ∃ rest, text = front ++ rest ∧ k.Decodes rest out := by
  induction front generalizing text with
  | nil => exact ⟨text, rfl, h⟩
  | cons c front ih =>
    rw [List.forall_mem_cons] at foreign
    generalize whole : c :: front ++ out = made at h
    cases h with
    | done => cases whole
    | reference means _ =>
      cases whole
      exact absurd means (foreign.1 _)
    | kept _ later =>
      cases whole
      obtain ⟨rest, rfl, final⟩ := ih foreign.2 later
      exact ⟨rest, rfl, final⟩

theorem unique {other : List Char} (h : k.Decodes text out) (h' : k.Decodes text other) :
    out = other := by
  induction h generalizing other with
  | done => exact h'.of_nil.symm
  | reference means _ ih =>
    obtain ⟨later, rfl, behind⟩ := h'.of_reference means
    rw [ih behind]
  | kept plain _ ih =>
    obtain ⟨later, rfl, behind⟩ := h'.of_kept plain
    rw [ih behind]

theorem append (free : '&' ∉ front) (h : k.Decodes rest out) :
    k.Decodes (front ++ rest) (front ++ out) := by
  induction front with
  | nil => exact h
  | cons c front ih =>
    rw [List.mem_cons, not_or] at free
    exact .kept (not_begins_of_ne (Ne.symm free.1)) (ih free.2)

theorem of_begins (begins : k.Begins (c :: rest)) (h : k.Decodes (c :: rest) out) :
    ∃ later, k.Decodes rest later ∧ out.length ≤ later.length := by
  obtain ⟨body, d, behind, means, whole⟩ := begins
  obtain ⟨rfl, rfl⟩ := List.cons.inj whole
  obtain ⟨later, rfl, final⟩ := h.of_reference means
  have free : '&' ∉ body ++ [';'] := by simp [(k.enclosed body d means).1]
  refine ⟨body ++ [';'] ++ later, ?_, ?_⟩
  · simpa using final.append free
  · simp only [List.length_cons, List.length_append, List.length_nil]
    omega

end Decodes

theorem exists_decodes (k : Kind) (text : List Char) : ∃ out, k.Decodes text out := by
  induction long : text.length using Nat.strong_induction_on generalizing text with
  | _ length ih =>
    by_cases begins : k.Begins text
    · obtain ⟨body, c, rest, means, rfl⟩ := begins
      obtain ⟨out, h⟩ := ih rest.length (by simp [← long]; omega) rest rfl
      exact ⟨c :: out, .reference means h⟩
    · cases text with
      | nil => exact ⟨[], .done⟩
      | cons c rest =>
        obtain ⟨out, h⟩ := ih rest.length (by simp [← long]) rest rfl
        exact ⟨c :: out, .kept begins h⟩

/- Two decodings. -/

theorem apart_cons : m.Apart n (c :: rest) ↔
    (∀ out, m.Decodes (c :: rest) out → n.Begins out → n.Begins (c :: rest)) ∧
      m.Apart n rest := by
  constructor
  · intro apart
    exact ⟨fun out => apart _ out List.suffix_rfl, fun s out ends =>
      apart s out (ends.trans (List.suffix_cons c rest))⟩
  · rintro ⟨here, later⟩ s out ends
    rcases List.suffix_cons_iff.mp ends with rfl | ends
    · exact here out
    · exact later s out ends

theorem apart_front (free : '&' ∉ front) : m.Apart n (front ++ rest) ↔ m.Apart n rest := by
  induction front with
  | nil => exact Iff.rfl
  | cons c front ih =>
    rw [List.mem_cons, not_or] at free
    rw [List.cons_append, apart_cons, ih free.2]
    apply and_iff_right
    intro out h begins
    have other : c ≠ '&' := Ne.symm free.1
    obtain ⟨later, rfl, _⟩ := h.of_kept (not_begins_of_ne other)
    exact absurd begins (not_begins_of_ne other)

theorem apart_enclosed (free : '&' ∉ body) : m.Apart n ('&' :: (body ++ ';' :: rest)) ↔
    (∀ out, m.Decodes ('&' :: (body ++ ';' :: rest)) out → n.Begins out →
      n.Begins ('&' :: (body ++ ';' :: rest))) ∧ m.Apart n rest := by
  have whole : body ++ ';' :: rest = (body ++ [';']) ++ rest := by simp
  rw [apart_cons]
  apply and_congr_right
  intro _
  rw [whole]
  exact apart_front (by simp [free])

/-- The first decoding makes or keeps one character where no reference of the second kind begins. -/
theorem decodes_next {s u v w : List Char} (plain : ¬ n.Begins s)
    (apart : m.Apart n s ↔ (∀ out, m.Decodes s out → n.Begins out → n.Begins s) ∧ m.Apart n rest)
    (first : m.Decodes s (c :: u)) (second : n.Decodes (c :: u) v)
    (later : ∀ v, n.Decodes u v →
      (m.Apart n rest → v = w) ∧ (¬ m.Apart n rest → v.length < w.length)) :
    (m.Apart n s → v = c :: w) ∧ (¬ m.Apart n s → v.length < (c :: w).length) := by
  have here : (∀ out, m.Decodes s out → n.Begins out → n.Begins s) ↔ ¬ n.Begins (c :: u) := by
    constructor
    · exact fun kept begins => plain (kept _ first begins)
    · intro free out h begins
      exact absurd (h.unique first ▸ begins) free
  rw [apart, here]
  by_cases begins : n.Begins (c :: u)
  · -- what was made or kept begins a reference that was not there
    obtain ⟨longer, h, le⟩ := second.of_begins begins
    have bound : longer.length ≤ w.length := by
      by_cases free : m.Apart n rest
      · rw [(later longer h).1 free]
      · exact ((later longer h).2 free).le
    refine ⟨fun none => absurd begins none.1, fun _ => ?_⟩
    rw [List.length_cons]
    omega
  · obtain ⟨next, rfl, h⟩ := second.of_kept begins
    constructor
    · intro both
      rw [(later next h).1 both.2]
    · intro found
      have more := (later next h).2 fun free => found ⟨begins, free⟩
      simpa using more

/-- Decoding two kinds one after the other comes to decoding them together, or makes the text
shorter. -/
theorem decodes_or {u v w : List Char} (disjoint : m.Disjoint n)
    (together : (m.or n).Decodes text w) (first : m.Decodes text u) (second : n.Decodes u v) :
    (m.Apart n text → v = w) ∧ (¬ m.Apart n text → v.length < w.length) := by
  induction together generalizing u v with
  | done =>
    obtain rfl := first.of_nil
    obtain rfl := second.of_nil
    refine ⟨fun _ => rfl, fun found => absurd ?_ found⟩
    intro s out ends h begins
    obtain rfl := List.suffix_nil.mp ends
    obtain rfl := h.of_nil
    exact begins
  | @reference body rest out c means _ ih =>
    obtain ⟨free, ends⟩ := (m.or n).enclosed body c means
    rcases Option.or_eq_some_iff.mp means with own | ⟨unknown, own⟩
    · obtain ⟨u, rfl, later⟩ := first.of_reference own
      have plain : ¬ n.Begins ('&' :: (body ++ ';' :: rest)) := by
        rw [begins_iff_meaning ends, (disjoint body).resolve_left (by simp [own])]
        exact Bool.false_ne_true
      exact decodes_next plain (apart_enclosed free) first second fun v h => ih later h
    · obtain ⟨u, rfl, later⟩ := first.of_enclosed unknown free ends
      obtain ⟨v, rfl, h⟩ := second.of_reference own
      have begins : n.Begins ('&' :: (body ++ ';' :: rest)) := ⟨body, c, rest, own, rfl⟩
      have apart : m.Apart n ('&' :: (body ++ ';' :: rest)) ↔ m.Apart n rest := by
        rw [apart_enclosed free]
        exact and_iff_right fun _ _ _ => begins
      rw [apart]
      simpa using ih later h
  | @kept rest out c none _ ih =>
    rw [begins_or, not_or] at none
    obtain ⟨u, rfl, later⟩ := first.of_kept none.1
    exact decodes_next none.2 apart_cons first second fun v h => ih later h

theorem length_le_of_decodes {u v w : List Char} (disjoint : m.Disjoint n)
    (together : (m.or n).Decodes text w) (first : m.Decodes text u) (second : n.Decodes u v) :
    v.length ≤ w.length := by
  have results := decodes_or disjoint together first second
  by_cases apart : m.Apart n text
  · rw [results.1 apart]
  · exact (results.2 apart).le

theorem apart_iff (disjoint : m.Disjoint n) (foreign : m.Foreign n) : m.Apart n text ↔
    ∀ name body c, m.meaning? name = some '&' → n.meaning? body = some c →
      ¬ '&' :: (name ++ ';' :: (body ++ [';'])) <:+: text := by
  constructor
  · rintro apart name body c makes means ⟨before, behind, rfl⟩
    obtain ⟨free, ends⟩ := n.enclosed body c means
    have whole : '&' :: (name ++ ';' :: (body ++ [';'])) ++ behind =
        '&' :: (name ++ ';' :: (body ++ ';' :: behind)) := by simp
    rw [List.append_assoc, whole] at apart
    obtain ⟨out, h⟩ := m.exists_decodes behind
    have made : m.Decodes ('&' :: (name ++ ';' :: (body ++ ';' :: behind)))
        ('&' :: (body ++ ';' :: out)) := by
      have plain : '&' ∉ body ++ [';'] := by simp [free]
      exact .reference makes (by simpa using h.append plain)
    have begins := apart _ _ (List.suffix_append before _) made ⟨body, c, out, means, rfl⟩
    rw [begins_iff_meaning (m.enclosed name _ makes).2,
      (disjoint name).resolve_left (by simp [makes])] at begins
    exact Bool.false_ne_true begins
  · rintro absent s out ends h ⟨body, c, rest, means, rfl⟩
    have whole : body ++ ';' :: rest = body ++ [';'] ++ rest := by simp
    rw [whole] at h
    generalize same : '&' :: (body ++ [';'] ++ rest) = made at h
    cases h with
    | done => cases same
    | @reference name behind _ _ makes later =>
      cases same
      obtain ⟨behind, rfl, -⟩ := later.of_out_front (foreign body c means)
      have inside : '&' :: (name ++ ';' :: (body ++ [';'])) <:+:
          '&' :: (name ++ ';' :: (body ++ [';'] ++ behind)) := ⟨[], behind, by simp⟩
      exact absurd (inside.trans ends.isInfix) (absent name body c makes means)
    | kept _ later =>
      cases same
      obtain ⟨behind, rfl, -⟩ := later.of_out_front (foreign body c means)
      exact ⟨body, c, behind, means, by simp⟩

/-- Decoding in two steps is decoding at once if the first step makes nothing of use to the
second. -/
theorem Decodes.or_of_foreign {u v : List Char} (disjoint : m.Disjoint n) (foreign : m.Foreign n)
    (none : ∀ body, m.meaning? body ≠ some '&') (first : m.Decodes text u)
    (second : n.Decodes u v) : (m.or n).Decodes text v := by
  obtain ⟨w, together⟩ := (m.or n).exists_decodes text
  have apart : m.Apart n text :=
    (apart_iff disjoint foreign).mpr fun name _ _ makes => absurd makes (none name)
  rw [(decodes_or disjoint together first second).1 apart]
  exact together

theorem Apart.of_or (disjoint : m.Disjoint (n.or k)) (apart : m.Apart (n.or k) text) :
    m.Apart n text := by
  rintro s out ends h ⟨body, c, rest, means, rfl⟩
  have bound := n.enclosed body c means
  have begins := apart s _ ends h (begins_or.mpr (.inl ⟨body, c, rest, means, rfl⟩))
  obtain ⟨other, d, behind, known, rfl⟩ := begins
  have unknown : m.meaning? other = none := (disjoint other).resolve_right (by simp [known])
  have enclosed := (n.or k).enclosed other d known
  obtain ⟨out, same, _⟩ := h.of_enclosed unknown enclosed.1 enclosed.2
  obtain ⟨rfl, -⟩ := body_unique bound.2 enclosed.2 (List.cons.inj same).2
  exact ⟨body, c, behind, means, rfl⟩

/-- Three decodings one after the other come to one decoding exactly if the first makes no reference
of the second kind and both together make none of the third. -/
theorem decodes_thrice_iff {u v w once : List Char} (disjoint : k.Disjoint (m.or n))
    (disjoint' : m.Disjoint n) (first : k.Decodes text u) (second : m.Decodes u v)
    (third : n.Decodes v w) (single : ((k.or m).or n).Decodes text once) :
    w = once ↔ k.Apart m text ∧ (k.or m).Apart n text := by
  have parts := disjoint_or.mp disjoint
  obtain ⟨both, together⟩ := (k.or m).exists_decodes text
  have two := decodes_or parts.1 together first second
  by_cases apart : k.Apart m text
  · obtain rfl := two.1 apart
    have three := decodes_or (or_disjoint.mpr ⟨parts.2, disjoint'⟩) single together third
    rw [and_iff_right apart]
    constructor
    · rintro rfl
      by_contra found
      exact (three.2 found).false
    · exact three.1
  · -- the second and the third decoding together already give a shorter text
    obtain ⟨late, whole⟩ := (m.or n).exists_decodes u
    have bound := length_le_of_decodes disjoint' whole second third
    rw [or_assoc] at single
    have shorter := (decodes_or disjoint single first whole).2 fun none =>
      apart (none.of_or disjoint)
    constructor
    · rintro rfl
      omega
    · exact fun conditions => absurd conditions.1 apart

end Kind

end TextGen.Text.Entity
