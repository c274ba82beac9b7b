import Mathlib
import TextGen.Proofs.Text.Occurrences
import TextGen.Text.Entity

/-! Texts that decoding leaves as they are.
Every character reference begins with an ampersand, so a text without one holds none. -/
namespace TextGen.Text

theorem replaceFrom_eq_self {needle text : List Char} (absent : ¬ needle <:+: text)
    (new : List Char) : replaceFrom needle new 0 text = text := by
  induction text with
  | nil => rfl
  | cons c text ih =>
    rw [List.infix_cons_iff, not_or] at absent
    unfold replaceFrom
    rw [dropPrefix?_eq_none_iff.mpr absent.1, ih absent.2]
    rfl

namespace Entity

theorem decodeFrom_eq_self {entity? : List Char → Option (Char × Nat)} {text : List Char}
    (absent : ∀ rest, rest <:+ text → entity? rest = none) : decodeFrom entity? 0 text = text := by
  induction text with
  | nil => rfl
  | cons c text ih =>
    unfold decodeFrom
    rw [absent _ List.suffix_rfl]
    dsimp only
    rw [ih fun rest ends => absent rest (ends.trans (List.suffix_cons c text))]

theorem numbered?_eq_none {opening text : List Char} (absent : ¬ opening <+: text)
    (isDigit : Char → Bool) (value? : List Char → Option Nat) :
    numbered? opening isDigit value? text = none := by
  unfold numbered?
  rw [dropPrefix?_eq_none_iff.mpr absent]
  rfl

variable {text : List Char}

theorem not_infix_of_ampersand (absent : '&' ∉ text) (rest : List Char) :
    ¬ '&' :: rest <:+: text :=
  fun inside => absent (inside.subset List.mem_cons_self)

theorem not_prefix_of_ampersand (absent : '&' ∉ text) (opening : List Char) {rest : List Char}
    (ends : rest <:+ text) : ¬ '&' :: opening <+: rest :=
  fun begins => not_infix_of_ampersand absent opening (begins.isInfix.trans ends.isInfix)

theorem decode_eq_self (absent : '&' ∉ text) :
    decode (String.ofList text) = String.ofList text := by
  have named : decodeNamed text = text := by
    have keeps (rest : List Char) (c : Char) : replaceAll ('&' :: rest) [c] text = text :=
      replaceFrom_eq_self (not_infix_of_ampersand absent rest) [c]
    change replaceAll ['&', 'q', 'u', 'o', 't', ';'] _ (replaceAll ['&', 'a', 'm', 'p', ';'] _
      (replaceAll ['&', 'g', 't', ';'] _ (replaceAll ['&', 'l', 't', ';'] _ text))) = _
    rw [keeps, keeps, keeps, keeps]
  have inDecimals : decodeFrom decimal? 0 text = text :=
    decodeFrom_eq_self fun rest ends =>
      numbered?_eq_none (not_prefix_of_ampersand absent ['#'] ends) _ _
  have inHexadecimals : decodeFrom hexadecimal? 0 text = text := by
    apply decodeFrom_eq_self
    intro rest ends
    have small := numbered?_eq_none (not_prefix_of_ampersand absent ['#', 'x'] ends) isHexDigit
    have capital := numbered?_eq_none (not_prefix_of_ampersand absent ['#', 'X'] ends) isHexDigit
    change (numbered? ['&', '#', 'x'] isHexDigit _ rest).or
      (numbered? ['&', '#', 'X'] isHexDigit _ rest) = none
    rw [small, capital]
    rfl
  rw [decode, String.toList_ofList, named, inDecimals, inHexadecimals]

end Entity

end TextGen.Text
