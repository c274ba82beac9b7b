import Mathlib
import TextGen.Proofs.Text.Occurrences
import TextGen.Proofs.Text.References
import TextGen.Proofs.Text.Runs
import TextGen.Text.Entity

/-! Decoding kind by kind.
Each step decodes the references of one kind once. Two things keep the steps together from being one
decoding of all kinds: what is made of `&amp;` is looked at again by the steps after it, and the
decimal step can make characters of hexadecimal references. A text without either is decoded once,
and with them the result is always another. -/
namespace TextGen.Text.Entity

/- What numbers mean. -/

def numeral? (opening : List Char) (isDigit : Char → Bool) (value : List Char → Nat)
    (body : List Char) : Option Char :=
  (dropPrefix? opening body).bind fun digits =>
    if digits ≠ [] ∧ ∀ d ∈ digits, isDigit d = true then ofCode? (value digits) else none

variable {opening body text : List Char} {isDigit : Char → Bool} {value : List Char → Nat}
  {c : Char}

theorem numeral?_eq_some_iff : numeral? opening isDigit value body = some c ↔
    ∃ digits, digits ≠ [] ∧ (∀ d ∈ digits, isDigit d = true) ∧ ofCode? (value digits) = some c ∧
      body = opening ++ digits := by
  simp only [numeral?, Option.bind_eq_some_iff, dropPrefix?_eq_some_iff,
    Option.ite_none_right_eq_some]
  constructor
  · rintro ⟨digits, same, ⟨nonempty, all⟩, means⟩
    exact ⟨digits, nonempty, all, means, same⟩
  · rintro ⟨digits, nonempty, all, means, same⟩
    exact ⟨digits, same, ⟨nonempty, all⟩, means⟩

theorem numbered?_eq_some_iff {value? : List Char → Option Nat} {n : Nat}
    (semicolon : isDigit ';' = false) : numbered? opening isDigit value? text = some (c, n) ↔
    ∃ digits rest, digits ≠ [] ∧ (∀ d ∈ digits, isDigit d = true) ∧
      (value? digits).bind ofCode? = some c ∧ text = opening ++ (digits ++ ';' :: rest) ∧
      n = opening.length + digits.length := by
  unfold numbered?
  constructor
  · intro found
    obtain ⟨rest, begins, found⟩ := Option.bind_eq_some_iff.mp found
    dsimp only at found
    split at found
    · next d digits behind read ends =>
      obtain ⟨_, means, same⟩ := Option.bind_eq_some_iff.mp found
      cases same
      have whole := List.takeWhile_append_dropWhile (p := isDigit) (l := rest)
      rw [read, ends] at whole
      refine ⟨d :: digits, behind, List.cons_ne_nil d digits, ?_, by rwa [← read], ?_, by rw [read]⟩
      · intro e inside
        rw [← read] at inside
        exact List.mem_takeWhile_imp inside
      · rw [whole]
        exact dropPrefix?_eq_some_iff.mp begins
    · cases found
  · rintro ⟨digits, rest, nonempty, all, means, rfl, rfl⟩
    have stops : ∀ e ∈ (';' :: rest).head?, isDigit e = false := by
      rintro e ⟨⟩
      exact semicolon
    obtain ⟨read, ends⟩ := takeWhile_append_of_run all stops
    obtain ⟨d, digits, rfl⟩ := List.exists_cons_of_ne_nil nonempty
    apply Option.bind_eq_some_iff.mpr
    refine ⟨d :: digits ++ ';' :: rest, dropPrefix?_eq_some_iff.mpr rfl, ?_⟩
    dsimp only
    rw [read, ends]
    exact Option.bind_eq_some_iff.mpr ⟨c, means, rfl⟩

namespace Kind

def named (name : List Char) (c : Char) (plain : '&' ∉ name ∧ ';' ∉ name) : Kind where
  meaning? body := if body = name then some c else none
  enclosed body d means := by
    obtain ⟨rfl, -⟩ := Option.ite_none_right_eq_some.mp means
    exact plain

def numeric (opening : List Char) (isDigit : Char → Bool) (value : List Char → Nat)
    (plain : ('&' ∉ opening ∧ ';' ∉ opening) ∧ isDigit '&' = false ∧ isDigit ';' = false) :
    Kind where
  meaning? := numeral? opening isDigit value
  enclosed body c means := by
    obtain ⟨digits, _, all, _, rfl⟩ := numeral?_eq_some_iff.mp means
    have ampersand : '&' ∉ digits := fun inside => by simpa [plain.2.1] using all _ inside
    have semicolon : ';' ∉ digits := fun inside => by simpa [plain.2.2] using all _ inside
    simp [plain.1, ampersand, semicolon]

def lt : Kind := named ['l', 't'] '<' (by decide)
def gt : Kind := named ['g', 't'] '>' (by decide)
def amp : Kind := named ['a', 'm', 'p'] '&' (by decide)
def quot : Kind := named ['q', 'u', 'o', 't'] '"' (by decide)
def decimals : Kind := numeric ['#'] Char.isDigit Number.ofDigits (by decide)
def hexadecimals : Kind :=
  (numeric ['#', 'x'] isHexDigit Unicode.ofHex (by decide)).or
    (numeric ['#', 'X'] isHexDigit Unicode.ofHex (by decide))

def signs : Kind := (lt.or gt).or amp

def references : Kind := (signs.or (quot.or decimals)).or hexadecimals

variable {k m n : Kind}

/- No two kinds read the same, and what a name makes seldom stands in a reference. -/

theorem named_eq_some_iff {name : List Char} {d : Char} {plain} :
    (named name c plain).meaning? body = some d ↔ body = name ∧ c = d :=
  Option.ite_none_right_eq_some.trans (by rw [Option.some_inj])

theorem named_disjoint {name : List Char} {plain} (unread : n.meaning? name = none) :
    (named name c plain).Disjoint n := by
  intro body
  by_cases same : body = name
  · exact .inr (same ▸ unread)
  · exact .inl (if_neg same)

theorem signs_disjoint : signs.Disjoint ((quot.or decimals).or hexadecimals) := by
  rw [signs, or_disjoint, or_disjoint]
  exact ⟨⟨named_disjoint rfl, named_disjoint rfl⟩, named_disjoint rfl⟩

theorem decimals_eq_some_iff : decimals.meaning? body = some c ↔
    ∃ digits, digits ≠ [] ∧ (∀ d ∈ digits, d.isDigit = true) ∧
      ofCode? (Number.ofDigits digits) = some c ∧ body = ['#'] ++ digits :=
  numeral?_eq_some_iff

theorem decimals_disjoint : decimals.Disjoint hexadecimals := by
  intro body
  rcases Option.eq_none_or_eq_some (hexadecimals.meaning? body) with none | ⟨c, means⟩
  · exact .inr none
  · left
    have letter : ∃ x digits, body = '#' :: x :: digits ∧ x.isDigit = false := by
      rcases Option.or_eq_some_iff.mp means with small | ⟨_, capital⟩
      · obtain ⟨digits, _, _, _, rfl⟩ := numeral?_eq_some_iff.mp small
        exact ⟨'x', digits, rfl, rfl⟩
      · obtain ⟨digits, _, _, _, rfl⟩ := numeral?_eq_some_iff.mp capital
        exact ⟨'X', digits, rfl, rfl⟩
    obtain ⟨x, rest, rfl, nodigit⟩ := letter
    apply Option.eq_none_iff_forall_ne_some.mpr
    intro d decimal
    obtain ⟨digits, _, all, _, same⟩ := decimals_eq_some_iff.mp decimal
    obtain rfl := (List.cons.inj same).2
    exact Bool.false_ne_true (nodigit ▸ all x List.mem_cons_self)

theorem foreign_or (left : k.Foreign m) (right : k.Foreign n) : k.Foreign (m.or n) := by
  intro body c means
  rcases of_meaning?_or means with first | second
  · exact left body c first
  · exact right body c second

theorem or_foreign (left : m.Foreign k) (right : n.Foreign k) : (m.or n).Foreign k := by
  intro body c means d inside other made
  rcases of_meaning?_or made with first | second
  · exact left body c means d inside other first
  · exact right body c means d inside other second

theorem named_foreign {name : List Char} {plain}
    (absent : ∀ body d, n.meaning? body = some d → c ∉ body ++ [';']) :
    (named name c plain).Foreign n := by
  intro body d means e inside other made
  obtain ⟨-, rfl⟩ := named_eq_some_iff.mp made
  exact absent body d means inside

theorem named_ne_ampersand {name : List Char} {plain} (other : c ≠ '&') (body : List Char) :
    (named name c plain).meaning? body ≠ some '&' :=
  fun makes => other (named_eq_some_iff.mp makes).2

theorem named_foreign_named {name other : List Char} {d : Char} {plain plain'}
    (absent : c ∉ other ++ [';']) : (named name c plain).Foreign (named other d plain') := by
  apply named_foreign
  intro body e means
  obtain ⟨rfl, -⟩ := named_eq_some_iff.mp means
  exact absent

theorem named_foreign_decimals {name : List Char} {plain} (absent : c ∉ ['#', ';'])
    (nodigit : c.isDigit = false) : (named name c plain).Foreign decimals := by
  apply named_foreign
  intro body e means inside
  obtain ⟨digits, _, all, _, rfl⟩ := decimals_eq_some_iff.mp means
  have digit : c ∉ digits := fun within => by simpa [nodigit] using all c within
  simp_all

/- What the steps read. -/

/-- The function finds the references of the kind, with the length that is to be passed over. -/
def ReadBy (k : Kind) (entity? : List Char → Option (Char × Nat)) : Prop :=
  ∀ text c n, entity? text = some (c, n) ↔
    ∃ body rest, k.meaning? body = some c ∧ text = '&' :: (body ++ ';' :: rest) ∧
      n = body.length + 1

theorem decodeFrom_eq_drop (entity? : List Char → Option (Char × Nat)) (n : Nat) :
    decodeFrom entity? n text = decodeFrom entity? 0 (text.drop n) := by
  induction n generalizing text with
  | zero => rfl
  | succ n ih =>
    cases text with
    | nil => rfl
    | cons c text => exact ih

theorem ReadBy.decodes {entity? : List Char → Option (Char × Nat)} (reads : k.ReadBy entity?)
    (text : List Char) : k.Decodes text (decodeFrom entity? 0 text) := by
  induction long : text.length using Nat.strong_induction_on generalizing text with
  | _ length ih =>
    cases text with
    | nil => exact .done
    | cons c text =>
      unfold decodeFrom
      cases found : entity? (c :: text) with
      | none =>
        refine .kept ?_ (ih text.length (by simp [← long]) text rfl)
        rintro ⟨body, d, rest, means, same⟩
        rw [(reads _ d _).mpr ⟨body, rest, means, same, rfl⟩] at found
        cases found
      | some entity =>
        obtain ⟨body, rest, means, same, passed⟩ := (reads _ entity.1 entity.2).mp found
        cases same
        dsimp only
        rw [decodeFrom_eq_drop, passed, show body ++ ';' :: rest = (body ++ [';']) ++ rest by simp,
          List.drop_left' (by simp)]
        rw [List.append_assoc]
        exact .reference means (ih rest.length (by simp [← long]; omega) rest rfl)

theorem ReadBy.or {e e' : List Char → Option (Char × Nat)} (left : m.ReadBy e)
    (right : n.ReadBy e') : (m.or n).ReadBy fun text => (e text).or (e' text) := by
  intro text c length
  rw [Option.or_eq_some_iff, left, right]
  constructor
  · rintro (⟨body, rest, means, rfl, rfl⟩ | ⟨absent, body, rest, means, rfl, rfl⟩)
    · exact ⟨body, rest, Option.or_eq_some_iff.mpr (.inl means), rfl, rfl⟩
    · have unread : m.meaning? body = none := by
        rw [Option.eq_none_iff_forall_ne_some]
        intro d first
        rw [(left _ d _).mpr ⟨body, rest, first, rfl, rfl⟩] at absent
        cases absent
      exact ⟨body, rest, Option.or_eq_some_iff.mpr (.inr ⟨unread, means⟩), rfl, rfl⟩
  · rintro ⟨body, rest, means, rfl, rfl⟩
    rcases Option.or_eq_some_iff.mp means with first | ⟨unread, second⟩
    · exact .inl ⟨body, rest, first, rfl, rfl⟩
    · refine .inr ⟨?_, body, rest, second, rfl, rfl⟩
      rw [Option.eq_none_iff_forall_ne_some]
      rintro ⟨d, passed⟩ found
      obtain ⟨other, behind, known, same, -⟩ := (left _ d passed).mp found
      obtain ⟨rfl, -⟩ := body_unique (n.enclosed body c second).2 (m.enclosed other d known).2
        (List.cons.inj same).2
      rw [unread] at known
      cases known

theorem named_readBy {name : List Char} {plain} : (named name c plain).ReadBy fun text =>
    (dropPrefix? ('&' :: (name ++ [';'])) text).map fun _ => (c, name.length + 1) := by
  intro text d length
  simp only [Option.map_eq_some_iff, dropPrefix?_eq_some_iff, named_eq_some_iff, Prod.mk.injEq]
  constructor
  · rintro ⟨rest, rfl, rfl, rfl⟩
    exact ⟨name, rest, ⟨rfl, rfl⟩, by simp, rfl⟩
  · rintro ⟨name, rest, ⟨rfl, rfl⟩, rfl, rfl⟩
    exact ⟨rest, by simp, rfl, rfl⟩

theorem replaceFrom_eq_decodeFrom (needle : List Char) (c : Char) (n : Nat) :
    replaceFrom needle [c] n text =
      decodeFrom (fun text => (dropPrefix? needle text).map fun _ => (c, needle.length - 1)) n
        text := by
  induction text generalizing n with
  | nil => cases n <;> rfl
  | cons d text ih =>
    cases n with
    | succ n => exact ih n
    | zero =>
      unfold replaceFrom decodeFrom
      cases dropPrefix? needle (d :: text) with
      | none => simp [ih]
      | some rest => simp [ih]

theorem decodes_replaceAll {name : List Char} {plain} (text : List Char) :
    (named name c plain).Decodes text (replaceAll ('&' :: (name ++ [';'])) [c] text) := by
  have length : ('&' :: (name ++ [';'])).length - 1 = name.length + 1 := by simp
  rw [replaceAll, replaceFrom_eq_decodeFrom, length]
  exact named_readBy.decodes text

theorem numeric_readBy {accepts : Char → Bool} {value? : List Char → Option Nat} {plain}
    (semicolon : accepts ';' = false)
    (agree : ∀ digits c,
      ((∀ d ∈ digits, accepts d = true) ∧ (value? digits).bind ofCode? = some c) ↔
      ((∀ d ∈ digits, isDigit d = true) ∧ ofCode? (value digits) = some c)) :
    (numeric opening isDigit value plain).ReadBy (numbered? ('&' :: opening) accepts value?) := by
  intro text c n
  rw [numbered?_eq_some_iff semicolon]
  constructor
  · rintro ⟨digits, rest, nonempty, all, means, rfl, rfl⟩
    obtain ⟨valid, known⟩ := (agree digits c).mp ⟨all, means⟩
    refine ⟨opening ++ digits, rest, ?_, by simp, by simp; omega⟩
    exact numeral?_eq_some_iff.mpr ⟨digits, nonempty, valid, known, rfl⟩
  · rintro ⟨body, rest, means, rfl, rfl⟩
    obtain ⟨digits, nonempty, valid, known, rfl⟩ := numeral?_eq_some_iff.mp means
    obtain ⟨all, known⟩ := (agree digits c).mpr ⟨valid, known⟩
    exact ⟨digits, rest, nonempty, all, known, by simp, by simp; omega⟩

theorem isDecimalDigit_of_isDigit {d : Char} (digit : d.isDigit = true) :
    Unicode.isDecimalDigit d = true := by
  have small : d.toNat < 128 := by
    simp only [Char.isDigit, Bool.and_eq_true, decide_eq_true_eq, UInt32.le_iff_toNat_le] at digit
    exact lt_of_le_of_lt digit.2 (by decide)
  rw [Unicode.isDecimalDigit, if_pos small]
  exact digit

theorem decimals_readBy : decimals.ReadBy decimal? := by
  apply numeric_readBy rfl
  intro digits c
  by_cases valid : ∀ d ∈ digits, d.isDigit = true
  · have all : ∀ d ∈ digits, Unicode.isDecimalDigit d = true :=
      fun d inside => isDecimalDigit_of_isDigit (valid d inside)
    rw [if_pos (List.all_eq_true.mpr valid), and_iff_right all, and_iff_right valid]
    rfl
  · rw [if_neg (mt List.all_eq_true.mp valid)]
    constructor
    · rintro ⟨_, none⟩
      cases none
    · rintro ⟨all, _⟩
      exact absurd all valid

theorem hexadecimals_readBy : hexadecimals.ReadBy hexadecimal? :=
  .or (numeric_readBy rfl fun _ _ => Iff.rfl) (numeric_readBy rfl fun _ _ => Iff.rfl)

/- The steps one after the other. -/

theorem lt_or_gt_ne_ampersand (body : List Char) : (lt.or gt).meaning? body ≠ some '&' := by
  intro makes
  rcases of_meaning?_or makes with first | second
  · exact named_ne_ampersand (by decide) body first
  · exact named_ne_ampersand (by decide) body second

theorem lt_or_gt_decodes (text : List Char) : (lt.or gt).Decodes text
    (replaceAll "&gt;".toList ['>'] (replaceAll "&lt;".toList ['<'] text)) := by
  have first : lt.Decodes text (replaceAll "&lt;".toList ['<'] text) := decodes_replaceAll text
  apply first.or_of_foreign (named_disjoint rfl)
  · exact named_foreign_named (by decide)
  · exact named_ne_ampersand (by decide)
  · exact decodes_replaceAll _

theorem signs_decodes (text : List Char) : signs.Decodes text (replaceAll "&amp;".toList ['&']
    (replaceAll "&gt;".toList ['>'] (replaceAll "&lt;".toList ['<'] text))) := by
  apply (lt_or_gt_decodes text).or_of_foreign
  · exact or_disjoint.mpr ⟨named_disjoint rfl, named_disjoint rfl⟩
  · exact or_foreign (named_foreign_named (by decide)) (named_foreign_named (by decide))
  · exact lt_or_gt_ne_ampersand
  · exact decodes_replaceAll _

theorem quot_or_decimals_decodes (text : List Char) : (quot.or decimals).Decodes text
    (decodeFrom decimal? 0 (replaceAll "&quot;".toList ['"'] text)) := by
  have first : quot.Decodes text (replaceAll "&quot;".toList ['"'] text) := decodes_replaceAll text
  apply first.or_of_foreign (named_disjoint rfl)
  · exact named_foreign_decimals (by decide) rfl
  · exact named_ne_ampersand (by decide)
  · exact decimals_readBy.decodes _

theorem signs_foreign : signs.Foreign (quot.or decimals) := by
  apply foreign_or
  · apply or_foreign (or_foreign ?_ ?_)
    all_goals exact named_foreign_named (by decide)
  · apply or_foreign (or_foreign ?_ ?_)
    all_goals exact named_foreign_decimals (by decide) rfl

theorem signs_make_ampersand (name : List Char) :
    signs.meaning? name = some '&' ↔ name = ['a', 'm', 'p'] := by
  constructor
  · intro makes
    rcases of_meaning?_or makes with first | second
    · exact absurd first (lt_or_gt_ne_ampersand name)
    · exact (named_eq_some_iff.mp second).1
  · rintro rfl
    rfl

end Kind

open Kind

theorem signs_apart_iff {text : List Char} : signs.Apart (quot.or decimals) text ↔
    ∀ body c, (quot.or decimals).meaning? body = some c →
      ¬ "&amp;".toList ++ body ++ [';'] <:+: text := by
  rw [apart_iff (disjoint_or.mp signs_disjoint).1 signs_foreign]
  constructor
  · intro absent body c means
    exact absent _ body c ((signs_make_ampersand _).mpr rfl) means
  · intro absent name body c makes means
    obtain rfl := (signs_make_ampersand name).mp makes
    exact absent body c means

/-- Every text has one decoding. What the steps make of it is that exactly if no `&amp;` is followed
by the rest of another reference, to a quotation mark or by a decimal number, and if decoding all
but the hexadecimal numbers makes no new one of these. -/
theorem decodes_once_iff (text : String) :
    (∃! out, references.Decodes text.toList out) ∧
      (references.Decodes text.toList (decode text).toList ↔
        (∀ body c, (quot.or decimals).meaning? body = some c →
          ¬ "&amp;".toList ++ body ++ [';'] <:+: text.toList) ∧
        (signs.or (quot.or decimals)).Apart hexadecimals text.toList) := by
  obtain ⟨once, single⟩ := references.exists_decodes text.toList
  refine ⟨⟨once, single, fun out h => h.unique single⟩, ?_⟩
  have steps := decodes_thrice_iff signs_disjoint
    (or_disjoint.mpr ⟨named_disjoint rfl, decimals_disjoint⟩) (signs_decodes text.toList)
    (quot_or_decimals_decodes _) (hexadecimals_readBy.decodes _) single
  rw [← signs_apart_iff, ← steps, decode, String.toList_ofList]
  constructor
  · exact fun h => h.unique single
  · intro same
    exact same ▸ single

theorem not_all_decoded_once :
    ¬ ∀ text : String, references.Decodes text.toList (decode text).toList := by
  intro always
  have kept : '&' ∉ "quot;".toList := by decide
  have single : references.Decodes "&amp;quot;".toList "&quot;".toList :=
    .reference (show references.meaning? ['a', 'm', 'p'] = some '&' from rfl)
      (Decodes.done.append kept)
  exact absurd ((always "&amp;quot;").unique single) (by decide)

end TextGen.Text.Entity
