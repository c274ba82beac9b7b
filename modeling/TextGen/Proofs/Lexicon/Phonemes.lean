import Mathlib
import TextGen.Proofs.Lexicon.Limits
import TextGen.Proofs.Lexicon.Tails
import TextGen.Proofs.Text.Occurrences
import TextGen.Proofs.Unicode.LowerTwice

/-! Rhymes phoneme by phoneme.
The list of rhymes compares pronunciations as texts. It holds every word whose phonemes end with
those of the stressed tail, and besides them the words that have the first phoneme of the tail as
the end of a longer one. -/
namespace TextGen.Lexicon

/-- A part of a pronunciation: a phoneme, or the sign between two of them, which may separate
syllables too. -/
inductive Segment where
  | phoneme (letters : List Char)
  | boundary (sign : Char)
deriving DecidableEq, Repr

namespace Segment

def text : Segment → List Char
  | phoneme letters => letters
  | boundary sign => [sign]

def bearsStress : Segment → Bool
  | phoneme letters => letters.contains '1'
  | boundary _ => false

end Segment

def segments : List Char → List Segment
  | [] => [.phoneme []]
  | c :: rest =>
    if isBoundary c then .phoneme [] :: .boundary c :: segments rest
    else match segments rest with
      | .phoneme letters :: later => .phoneme (c :: letters) :: later
      | later => .phoneme [c] :: later

/-- What begins with the phoneme that bears the last stress; everything if there is no stress. -/
def fromLastStress : List Segment → List Segment
  | [] => []
  | first :: rest => if rest.any (·.bearsStress) then fromLastStress rest else first :: rest

/-- The words of a table whose segments end with those of the pronunciation from its last stress
on. -/
def wholeRhymes (t : Table) (phones : List Char) : List String :=
  let tail := fromLastStress (segments phones)
  (t.filter fun item => tail.isSuffixOf (segments item.2.phones.toList)).map (·.1)

variable {l : Lexicon} {t : Table} {o : SearchOptions} {w : String} {e : Entry}
variable {c : Char} {front rest tail phones letters : List Char} {later : List Segment}

/- Segments. -/

theorem exists_segments (phones : List Char) :
    ∃ letters later, segments phones = .phoneme letters :: later := by
  cases phones with
  | nil => exact ⟨[], [], rfl⟩
  | cons c rest =>
    rw [segments]
    split
    · exact ⟨[], _, rfl⟩
    · split
      · exact ⟨_, _, rfl⟩
      · exact ⟨_, _, rfl⟩

theorem segments_cons_boundary (sign : isBoundary c = true) (rest : List Char) :
    segments (c :: rest) = .phoneme [] :: .boundary c :: segments rest := by
  rw [segments, if_pos sign]

theorem segments_cons (inside : isBoundary c = false)
    (read : segments rest = .phoneme letters :: later) :
    segments (c :: rest) = .phoneme (c :: letters) :: later := by
  rw [segments, if_neg (by simp [inside]), read]

theorem segments_append (inside : ∀ c ∈ front, isBoundary c = false)
    (read : segments rest = .phoneme letters :: later) :
    segments (front ++ rest) = .phoneme (front ++ letters) :: later := by
  induction front with
  | nil => exact read
  | cons c front ih =>
    obtain ⟨first, inside⟩ := List.forall_mem_cons.mp inside
    exact segments_cons first (ih inside)

theorem segments_append_boundary (front : List Char) (sign : isBoundary c = true)
    (rest : List Char) :
    segments (front ++ c :: rest) = segments front ++ .boundary c :: segments rest := by
  induction front with
  | nil => exact segments_cons_boundary sign rest
  | cons d front ih =>
    cases kind : isBoundary d with
    | true =>
      rw [List.cons_append, segments_cons_boundary kind, segments_cons_boundary kind, ih]
      rfl
    | false =>
      obtain ⟨letters, later, read⟩ := exists_segments front
      rw [read] at ih
      rw [List.cons_append, segments_cons kind ih, segments_cons kind read]
      rfl

theorem flatMap_text_segments (phones : List Char) : (segments phones).flatMap (·.text) = phones := by
  induction phones with
  | nil => rfl
  | cons c rest ih =>
    cases kind : isBoundary c with
    | true =>
      rw [segments_cons_boundary kind, List.flatMap_cons, List.flatMap_cons, ih]
      rfl
    | false =>
      obtain ⟨letters, later, read⟩ := exists_segments rest
      rw [read] at ih
      rw [segments_cons kind read, ← ih]
      rfl

theorem segments_injective : Function.Injective segments := by
  intro p q same
  rw [← flatMap_text_segments p, same, flatMap_text_segments]

theorem exists_segments_append (starts : ∀ c ∈ front.getLast?, isBoundary c = true)
    (rest : List Char) : ∃ before, segments (front ++ rest) = before ++ segments rest := by
  rcases List.eq_nil_or_concat' front with rfl | ⟨front, sign, rfl⟩
  · exact ⟨[], rfl⟩
  · have isSign : isBoundary sign = true := starts sign (by simp)
    refine ⟨segments front ++ [.boundary sign], ?_⟩
    rw [List.append_assoc, List.singleton_append, segments_append_boundary front isSign,
      List.append_assoc, List.singleton_append]

/- The end from the last stress on. -/

theorem any_bearsStress_segments (phones : List Char) :
    (segments phones).any (·.bearsStress) = decide ('1' ∈ phones) := by
  induction phones with
  | nil => rfl
  | cons c rest ih =>
    cases kind : isBoundary c with
    | true =>
      have other : '1' ≠ c := by
        rintro rfl
        cases kind
      rw [segments_cons_boundary kind, List.any_cons, List.any_cons, ih]
      simp [Segment.bearsStress, other]
    | false =>
      obtain ⟨letters, later, read⟩ := exists_segments rest
      rw [read, List.any_cons] at ih
      have both : decide ('1' ∈ c :: rest) = (decide ('1' = c) || decide ('1' ∈ rest)) := by simp
      rw [segments_cons kind read, List.any_cons, both, ← ih]
      simp [Segment.bearsStress, Bool.or_assoc]

theorem any_later_eq_false {first : Segment} (read : segments phones = first :: later)
    (unstressed : '1' ∉ phones) : later.any (·.bearsStress) = false := by
  have none := any_bearsStress_segments phones
  rw [read, List.any_cons, decide_eq_false unstressed, Bool.or_eq_false_iff] at none
  exact none.2

theorem fromLastStress_append {back : List Segment} (stressed : back.any (·.bearsStress) = true)
    (front : List Segment) : fromLastStress (front ++ back) = fromLastStress back := by
  induction front with
  | nil => rfl
  | cons first front ih =>
    have behind : (front ++ back).any (·.bearsStress) = true := by
      rw [List.any_append, stressed, Bool.or_true]
    rw [List.cons_append, fromLastStress, if_pos behind, ih]

theorem fromLastStress_cons (first : Segment) (unstressed : later.any (·.bearsStress) = false) :
    fromLastStress (first :: later) = first :: later := by
  rw [fromLastStress, if_neg (by simp [unstressed])]

theorem fromLastStress_segments (phones : List Char) :
    fromLastStress (segments phones) = segments (stressedTail phones) := by
  by_cases stressed : '1' ∈ phones
  · obtain ⟨front, phoneme, after, cut⟩ := exists_stressedAt stressed
    obtain ⟨letters, later, read⟩ := exists_segments after
    have first : segments (phoneme ++ '1' :: after) = .phoneme (phoneme ++ '1' :: letters) :: later :=
      segments_append cut.inside (segments_cons rfl read)
    have marked : (segments (phoneme ++ '1' :: after)).any (·.bearsStress) = true := by
      rw [any_bearsStress_segments]
      simp
    obtain ⟨before, whole⟩ := exists_segments_append cut.starts (phoneme ++ '1' :: after)
    rw [cut.stressedTail_eq, cut.whole, whole, fromLastStress_append marked, first,
      fromLastStress_cons _ (any_later_eq_false read cut.last)]
  · obtain ⟨letters, later, read⟩ := exists_segments phones
    rw [stressedTail_of_unstressed stressed, read,
      fromLastStress_cons _ (any_later_eq_false read stressed)]

/- Ends of pronunciations. -/

namespace EndsAtPhoneme

theorem cons_of_boundary (ends : EndsAtPhoneme tail rest) (sign : isBoundary c = true) :
    EndsAtPhoneme tail (c :: rest) := by
  obtain ⟨front, rfl, starts⟩ := ends
  refine ⟨c :: front, rfl, fun d last => ?_⟩
  cases front with
  | nil => exact Option.some.inj last ▸ sign
  | cons => exact starts d (by rwa [List.getLast?_cons_cons] at last)

theorem cons_of_ne (ends : EndsAtPhoneme tail rest) (longer : rest ≠ tail) (c : Char) :
    EndsAtPhoneme tail (c :: rest) := by
  obtain ⟨front, rfl, starts⟩ := ends
  cases front with
  | nil => exact absurd rfl longer
  | cons d front => exact ⟨c :: d :: front, rfl, by simpa only [List.getLast?_cons_cons] using starts⟩

end EndsAtPhoneme

theorem endsAtPhoneme_of_segments_suffix (ends : segments tail <:+ segments phones) :
    EndsAtPhoneme tail phones := by
  induction phones with
  | nil =>
    obtain ⟨letters, later, read⟩ := exists_segments tail
    have all : segments tail = segments [] := ends.eq_of_length_le (by simp [segments, read])
    exact ⟨[], (segments_injective all).symm, nofun⟩
  | cons c rest ih =>
    by_cases whole : segments tail = segments (c :: rest)
    · exact ⟨[], (segments_injective whole).symm, nofun⟩
    · cases kind : isBoundary c with
      | true =>
        obtain ⟨first, next, begins⟩ := exists_segments tail
        rw [segments_cons_boundary kind] at ends whole
        have behind := (List.suffix_cons_iff.mp ends).resolve_left whole
        have later : segments tail <:+ segments rest :=
          (List.suffix_cons_iff.mp behind).resolve_left (by simp [begins])
        exact (ih later).cons_of_boundary kind
      | false =>
        obtain ⟨letters, later, read⟩ := exists_segments rest
        rw [segments_cons kind read] at ends whole
        have behind := (List.suffix_cons_iff.mp ends).resolve_left whole
        have inside : segments tail <:+ segments rest := read ▸ behind.trans (List.suffix_cons _ later)
        refine (ih inside).cons_of_ne ?_ c
        -- otherwise the tail would be an end of itself without its first phoneme
        rintro rfl
        have short := behind.length_le
        rw [read, List.length_cons] at short
        omega

/-- The segments end with those of a tail exactly if the tail begins with a whole phoneme there. -/
theorem segments_suffix_iff : segments tail <:+ segments phones ↔ EndsAtPhoneme tail phones := by
  refine ⟨endsAtPhoneme_of_segments_suffix, ?_⟩
  rintro ⟨front, rfl, starts⟩
  obtain ⟨before, whole⟩ := exists_segments_append starts tail
  exact ⟨before, whole.symm⟩

/-- The tail is an end of the text, with a letter of the same phoneme in front of it. -/
def EndsInPhoneme (tail phones : List Char) : Prop :=
  ∃ front c, phones = front ++ c :: tail ∧ isBoundary c = false

theorem suffix_iff_endsAtPhoneme_or :
    tail <:+ phones ↔ EndsAtPhoneme tail phones ∨ EndsInPhoneme tail phones := by
  constructor
  · rintro ⟨front, rfl⟩
    rcases List.eq_nil_or_concat' front with rfl | ⟨front, c, rfl⟩
    · exact .inl ⟨[], rfl, nofun⟩
    · cases kind : isBoundary c with
      | true => exact .inl ⟨front ++ [c], rfl, by simpa using kind⟩
      | false => exact .inr ⟨front, c, by simp, kind⟩
  · rintro (⟨front, rfl, _⟩ | ⟨front, c, rfl, _⟩)
    · exact List.suffix_append front tail
    · exact ⟨front ++ [c], by simp⟩

theorem EndsAtPhoneme.not_endsInPhoneme (ends : EndsAtPhoneme tail phones) :
    ¬ EndsInPhoneme tail phones := by
  rintro ⟨front, c, rfl, inside⟩
  obtain ⟨other, same, starts⟩ := ends
  rw [List.append_cons, List.append_cancel_right_eq] at same
  have isSign := starts c (by simp [← same])
  rw [inside] at isSign
  cases isSign

theorem EndsInPhoneme.exists_longer (ends : EndsInPhoneme tail phones)
    (read : segments tail = .phoneme letters :: later) :
    ∃ longer, .phoneme longer ∈ segments phones ∧ letters <:+ longer ∧ longer ≠ letters := by
  obtain ⟨front, c, rfl, inside⟩ := ends
  obtain ⟨other, more, rfl, starts, inner⟩ := exists_phoneme front
  have whole : segments (more ++ c :: tail) = .phoneme (more ++ c :: letters) :: later :=
    segments_append inner (segments_cons inside read)
  obtain ⟨before, parts⟩ := exists_segments_append starts (more ++ c :: tail)
  refine ⟨more ++ c :: letters, ?_, ⟨more ++ [c], by simp⟩, fun same => ?_⟩
  · rw [List.append_assoc, parts, whole]
    simp
  · have length := congrArg List.length same
    rw [List.length_append, List.length_cons] at length
    omega

/- The list of rhymes. -/

/-- In the table the phoneme is not the end of a longer one. -/
def Table.NoneLonger (t : Table) (letters : List Char) : Prop :=
  ∀ item ∈ t, ∀ longer, .phoneme longer ∈ segments item.2.phones.toList →
    letters <:+ longer → longer = letters

/-- Of two tests the one that implies the other keeps the same items only if it is the same test on
the list. -/
theorem map_filter_of_imp {α β : Type} {p q : α → Bool} (f : α → β)
    (implies : ∀ x, p x = true → q x = true) (list : List α) :
    ((list.filter p).map f).Sublist ((list.filter q).map f) ∧
      ((list.filter q).map f = (list.filter p).map f ↔ ∀ x ∈ list, q x = true → p x = true) := by
  have fewer : (list.filter p).Sublist (list.filter q) := List.monotone_filter_right list implies
  refine ⟨fewer.map f, fun same x mem passes => ?_, fun all => ?_⟩
  · have length : (list.filter q).length = (list.filter p).length := by
      simpa using congrArg List.length same
    have kept : x ∈ list.filter p := by
      rw [fewer.eq_of_length length.symm]
      exact List.mem_filter.mpr ⟨mem, passes⟩
    exact (List.mem_filter.mp kept).2
  · refine congrArg (List.map f) (List.filter_congr fun x mem => ?_)
    exact Bool.eq_iff_iff.mpr ⟨all x mem, implies x⟩

theorem rhymes_of_find? (holds : l.table = some t) (found : l.find? w = some e)
    (free : o.limit = none) (r : Run) :
    l.rhymes w o r = (.ok (((o.accepted (t.filter (·.1 ≠ Unicode.lowercase w))).filter fun item =>
      Text.endsWith item.2.phones.toList (stressedTail e.phones.toList)).map (·.1)), l, r) := by
  have entry : t.find? (Unicode.lowercase w) = some e := by
    rw [Table.find?, Unicode.lowercase_lowercase]
    rwa [find?, holds] at found
  rw [rhymes, ask_of_table holds, Table.rhymes]
  simp only [Table.phones?, entry, Option.map_some, Table.others, collect_eq_filter_accepted free]

/-- Without a limit the words whose phonemes end with those of the stressed tail are all listed. No
other words are if and only if no accepted word ends with the tail within a phoneme; so it is if in
the table the first phoneme of the tail is not the end of a longer one. -/
theorem whole_rhymes_iff (holds : l.table = some t) (found : l.find? w = some e)
    (free : o.limit = none) (r : Run) :
    let phones := e.phones.toList
    let others := o.accepted (t.filter (·.1 ≠ Unicode.lowercase w))
    ∃ words, l.rhymes w o r = (.ok words, l, r) ∧ (wholeRhymes others phones).Sublist words ∧
      (words = wholeRhymes others phones ↔
        ∀ item ∈ others, ¬ EndsInPhoneme (stressedTail phones) item.2.phones.toList) ∧
      ∀ letters, (fromLastStress (segments phones)).head? = some (.phoneme letters) →
        t.NoneLonger letters → words = wholeRhymes others phones := by
  intro phones others
  have listed_iff (item : String × Entry) :
      Text.endsWith item.2.phones.toList (stressedTail phones) = true ↔
        EndsAtPhoneme (stressedTail phones) item.2.phones.toList ∨
          EndsInPhoneme (stressedTail phones) item.2.phones.toList :=
    Text.endsWith_iff.trans suffix_iff_endsAtPhoneme_or
  have whole_iff (item : String × Entry) :
      (fromLastStress (segments phones)).isSuffixOf (segments item.2.phones.toList) = true ↔
        EndsAtPhoneme (stressedTail phones) item.2.phones.toList := by
    rw [List.isSuffixOf_iff_suffix, fromLastStress_segments, segments_suffix_iff]
  obtain ⟨fewer, same_iff⟩ := map_filter_of_imp Prod.fst
    (fun item whole => (listed_iff item).mpr (.inl ((whole_iff item).mp whole))) others
  have exact_iff : (∀ item ∈ others, Text.endsWith item.2.phones.toList (stressedTail phones) = true →
      (fromLastStress (segments phones)).isSuffixOf (segments item.2.phones.toList) = true) ↔
      ∀ item ∈ others, ¬ EndsInPhoneme (stressedTail phones) item.2.phones.toList := by
    refine forall₂_congr fun item _ => ?_
    rw [listed_iff, whole_iff]
    exact ⟨fun keeps ends => (keeps (.inr ends)).not_endsInPhoneme ends,
      fun never listed => listed.resolve_right never⟩
  refine ⟨_, rhymes_of_find? holds found free r, fewer, same_iff.trans exact_iff, ?_⟩
  intro letters first apart
  refine (same_iff.trans exact_iff).mpr fun item mem ends => ?_
  obtain ⟨head, later, read⟩ := exists_segments (stressedTail phones)
  rw [fromLastStress_segments, read] at first
  cases first
  obtain ⟨longer, inside, ends, other⟩ := ends.exists_longer read
  have held : item ∈ t := (List.mem_filter.mp (List.mem_filter.mp mem).1).1
  exact other (apart item held longer inside ends)

theorem whole_rhymes_of_cat :
    let cat : Entry := ⟨"k-ae1-t", "nn"⟩
    let t : Table := [("at", ⟨"ae1-t", "in"⟩), ("cat", cat), ("height", ⟨"hh-ay1-t", "nn"⟩),
      ("wildcat", ⟨"w-ay1-l-d k-ae1-t", "nn"⟩)]
    let l : Lexicon := { table := some t }
    (l.table = some t ∧ l.find? "Cat" = some cat ∧ ({} : SearchOptions).limit = none ∧
      t.NoneLonger ['a', 'e', '1']) ∧
      ∀ r, l.rhymes "Cat" {} r = (.ok ["wildcat"], l, r) := by
  intro cat t l
  have found : l.find? "Cat" = some cat := by decide +kernel
  have all : ∀ item ∈ t, ∀ s ∈ segments item.2.phones.toList, ['a', 'e', '1'] <:+ s.text →
      s.text = ['a', 'e', '1'] := by decide +kernel
  have apart : t.NoneLonger ['a', 'e', '1'] := fun item mem longer inside =>
    all item mem (.phoneme longer) inside
  refine ⟨⟨rfl, found, rfl, apart⟩, fun r => ?_⟩
  obtain ⟨words, listed, _, _, whole⟩ := whole_rhymes_iff (o := {}) rfl found rfl r
  rw [listed, whole ['a', 'e', '1'] (by decide +kernel) apart]
  have rhymes : wholeRhymes ((({} : SearchOptions)).accepted
    (t.filter (·.1 ≠ Unicode.lowercase "Cat"))) cat.phones.toList = ["wildcat"] := by decide +kernel
  rw [rhymes]

/-- The text of `it` ends that of `height`, whose last two phonemes are `ai1` and `t`. -/
theorem not_all_rhymes_whole :
    ¬ ∀ (l : Lexicon) (t : Table) (w : String) (e : Entry) (o : SearchOptions) (r : Run),
      l.table = some t → t.Loaded → l.find? w = some e → o.limit = none →
      (l.rhymes w o r).1 = .ok (wholeRhymes (o.accepted (t.filter (·.1 ≠ Unicode.lowercase w)))
        e.phones.toList) := by
  intro all
  let t : Table := [("height", ⟨"h-ai1-t", "nn"⟩), ("it", ⟨"i1-t", "prp"⟩)]
  let l : Lexicon := { table := some t }
  have listed : (l.rhymes "it" {} default).1 = .ok ["height"] := by decide +kernel
  have none_ : wholeRhymes (({} : SearchOptions).accepted (t.filter (·.1 ≠ Unicode.lowercase "it")))
    "i1-t".toList = [] := by decide +kernel
  have claimed := all l t "it" _ {} default rfl (Table.loaded_of_pairwise (by decide))
    (show l.find? "it" = some ⟨"i1-t", "prp"⟩ by decide +kernel) rfl
  rw [listed, none_] at claimed
  cases claimed

end TextGen.Lexicon
