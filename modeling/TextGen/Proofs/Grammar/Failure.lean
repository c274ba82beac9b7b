import Mathlib
import TextGen.Proofs.Grammar.Refinement
import TextGen.Proofs.Json.Reading

/-! What a failed call leaves.
Alternatives of one rule are read before any of them is put in, so a call for one rule that fails
changes nothing. A rule set is read and put in member by member. If a member is refused, then those
before it stay, and the grammar is as before only if they had nothing new to say. -/
namespace TextGen

theorem Json.keys_insertMember (key : String) (value : Json.Value)
    (members : List (String × Json.Value)) :
    (Json.insertMember key value members).map Prod.fst =
      if key ∈ members.map Prod.fst then members.map Prod.fst
      else members.map Prod.fst ++ [key] := by
  induction members with
  | nil => rfl
  | cons member rest ih =>
    obtain ⟨other, old⟩ := member
    unfold Json.insertMember
    by_cases same : other = key
    · simp [same]
    · rw [if_neg same, List.map_cons, ih]
      by_cases inside : key ∈ rest.map Prod.fst
      · simp [inside]
      · simp [inside, Ne.symm same]

theorem Json.nodup_insertMembers (members old : List (String × Json.Value))
    (distinct : (old.map Prod.fst).Nodup) :
    ((members.foldl (fun kept (key, value) => Json.insertMember key value kept) old).map
      Prod.fst).Nodup := by
  induction members generalizing old with
  | nil => exact distinct
  | cons member rest ih =>
    apply ih
    rw [Json.keys_insertMember]
    split
    · exact distinct
    · next outside => exact distinct.append (List.nodup_singleton _) (by simpa using outside)

theorem Json.nodup_merged (members : List (String × Json.Value)) :
    ((Json.merged members).map Prod.fst).Nodup :=
  Json.nodup_insertMembers members [] List.nodup_nil

namespace Grammar

/- What is accepted up to an error. -/

theorem names_acceptedMembers (members : List (String × Json.Value)) :
    (acceptedMembers members).1.map Prod.fst <+: members.map Prod.fst := by
  induction members with
  | nil => exact List.nil_prefix
  | cons member rest ih =>
    obtain ⟨name, rule⟩ := member
    unfold acceptedMembers
    cases memberProductions? name rule with
    | ok new => exact List.cons_prefix_cons.mpr ⟨rfl, ih⟩
    | error e => exact List.nil_prefix

theorem nodup_single (name : String) (parsed : Except Error (List Production)) :
    ((single name parsed).1.map Prod.fst).Nodup := by
  cases parsed with
  | ok new => exact List.nodup_singleton name
  | error e => exact List.nodup_nil

theorem Addition.nodup_names (a : Addition) : a.names.Nodup := by
  cases a with
  | rule name text w => exact nodup_single name _
  | alternatives name texts w => exact nodup_single name _
  | json text =>
    simp only [Addition.names, Addition.accepted]
    split
    · exact List.nodup_nil
    · exact (Json.nodup_merged _).sublist (names_acceptedMembers _).sublist
    · exact List.nodup_nil

theorem single_nil_of_error {name : String} {parsed : Except Error (List Production)} {e : Error}
    (failed : (single name parsed).2 = some e) : (single name parsed).1 = [] := by
  cases parsed with
  | ok new => cases failed
  | error e => rfl

theorem Addition.accepted_nil_of_error {a : Addition} {e : Error} (failed : a.accepted.2 = some e)
    (one : ∀ text, a ≠ .json text) : a.accepted.1 = [] := by
  cases a with
  | rule name text w => exact single_nil_of_error failed
  | alternatives name texts w => exact single_nil_of_error failed
  | json text => exact absurd rfl (one text)

/- When additions change nothing. -/

theorem Weights.productions_injective : Function.Injective Weights.productions := by
  intro a b same
  apply OrderedMap.ext
  apply List.map_injective_iff.mpr _ same
  rintro ⟨text, weight⟩ ⟨other, another⟩ equal
  cases equal
  rfl

theorem RuleMap.rules_injective : Function.Injective RuleMap.rules := by
  intro m n same
  apply OrderedMap.ext
  apply List.map_injective_iff.mpr _ same
  rintro ⟨name, weights⟩ ⟨other, another⟩ equal
  obtain ⟨rfl, productions⟩ := Rule.mk.inj equal
  rw [Weights.productions_injective productions]

theorem RuleMap.foldl_add_eq_self_iff (m : RuleMap) {entries : List Entry}
    (distinct : (entries.map Prod.fst).Nodup) :
    entries.foldl RuleMap.add m = m ↔ ∀ entry ∈ entries, m.add entry = m := by
  constructor
  · exact m.update_eq_self_of_foldl distinct
  · intro unchanged
    induction entries with
    | nil => rfl
    | cons entry entries ih =>
      rw [List.foldl_cons, unchanged entry List.mem_cons_self]
      exact ih (List.nodup_cons.mp distinct).2 fun other mem =>
        unchanged other (List.mem_cons_of_mem entry mem)

theorem Represents.insertAll_unchanged_iff {g : Grammar} {m : RuleMap} (h : Represents g m)
    (a : Addition) : (g.insertAll a.accepted.1).rules = g.rules ↔
      ∀ entry ∈ a.accepted.1, (g.insert entry.1 entry.2).rules = g.rules := by
  have alone : ∀ entry ∈ a.accepted.1,
      ((g.insert entry.1 entry.2).rules = g.rules ↔ m.add entry = m) := by
    intro entry mem
    rw [(h.insert (a.accepted_weight entry mem)).rules, h.rules]
    exact RuleMap.rules_injective.eq_iff
  rw [(h.insertAll a.accepted_weight).rules, h.rules, RuleMap.rules_injective.eq_iff,
    m.foldl_add_eq_self_iff a.nodup_names, ← h.rules]
  exact forall₂_congr fun entry mem => (alone entry mem).symm

/- A rule set whose second member is refused. -/

def halfRefused : String := "\x7b\"<a>\":\"x\",\"<b>\":null\x7d"

theorem ofText?_halfRefused :
    Json.ofText? halfRefused = some (.object [("<a>", .text "x"), ("<b>", .null)]) := by
  have nameA : (Json.text? "<a>\":\"x\",\"<b>\":null\x7d".toList).map Text.Reading.parts =
      some ("<a>".toList, ":\"x\",\"<b>\":null\x7d".toList) := by
    simp [Json.text?_cons, Json.text?_quote]
  have nameB : (Json.text? "<b>\":null\x7d".toList).map Text.Reading.parts =
      some ("<b>".toList, ":null\x7d".toList) := by
    simp [Json.text?_cons, Json.text?_quote]
  have textX : (Json.text? "x\",\"<b>\":null\x7d".toList).map Text.Reading.parts =
      some ("x".toList, ",\"<b>\":null\x7d".toList) := by
    simp [Json.text?_cons, Json.text?_quote]
  have second : (Json.members? 126 "\"<b>\":null\x7d".toList).map Text.Reading.parts =
      some ([("<b>", .null)], []) :=
    Json.members?_eq rfl nameB rfl (Json.value?_null ['\x7d']) rfl (.inl rfl)
  have both : (Json.members? 126 "\"<a>\":\"x\",\"<b>\":null\x7d".toList).map Text.Reading.parts =
      some ([("<a>", .text "x"), ("<b>", .null)], []) := by
    rw [Json.members?_eq rfl nameA rfl (Json.value?_text textX) rfl (.inr rfl),
      if_neg (by decide)]
    change ((Json.members? 126 "\"<b>\":null\x7d".toList).map Text.Reading.parts).map _ = _
    rw [second]
    rfl
  have whole : (Json.value? 127 halfRefused.toList).map Text.Reading.parts =
      some (.object [("<a>", .text "x"), ("<b>", .null)], []) := Json.value?_object rfl both
  obtain ⟨⟨_, _, _⟩, found, same⟩ := Option.map_eq_some_iff.mp whole
  cases same
  rw [Json.ofText?, Json.depthLimit, found]
  rfl

theorem accepted_halfRefused : (Addition.json halfRefused).accepted =
    ([("<a>", [⟨"x", 1.0⟩])], some (.invalidRuleSet "rule '<b>' is null")) := by
  have cut : Text.splitOn '|' "x".toList = [['x']] := rfl
  have one : alternatives "x" = ["x"] := by
    rw [alternatives, cut, trimInner]
    rfl
  have parsed : memberProductions? "<a>" (.text "x") = .ok [⟨"x", 1.0⟩] := by
    rw [memberProductions?, one, productions?, if_pos (by decide)]
    rfl
  simp only [Addition.accepted, ofText?_halfRefused]
  change acceptedMembers [("<a>", .text "x"), ("<b>", .null)] = _
  rw [acceptedMembers, parsed]
  rfl

theorem error_halfRefused :
    (empty.addJson halfRefused).2 = some (.invalidRuleSet "rule '<b>' is null") := by
  have run : empty.addJson halfRefused = _ := (Addition.json halfRefused).run_eq empty
  rw [run, accepted_halfRefused]

theorem rules_insert_first :
    (empty.insert "<a>" [⟨"x", 1.0⟩]).rules = [⟨"<a>", [⟨"x", 1.0⟩]⟩] := by
  have placed : (empty.place "<a>").2.rules = [⟨"<a>", []⟩] := by simp [Grammar.place, empty]
  rw [inStep_empty.rules_insert, placed]
  rfl

/-- A failed addition to one rule changes nothing. A failed rule set leaves what was accepted before
its error, and the rules are as before exactly if each accepted member alone changes nothing. -/
theorem failed_addition (calls : List Call) (a : Addition) (e : Error)
    (failed : (a.run (after calls)).2 = some e) :
    ((∀ text, a ≠ .json text) → (a.run (after calls)).1 = after calls) ∧
    (a.run (after calls)).1 = (after calls).insertAll a.accepted.1 ∧
    ((a.run (after calls)).1.rules = (after calls).rules ↔
      ∀ entry ∈ a.accepted.1,
        ((after calls).insert entry.1 entry.2).rules = (after calls).rules) := by
  rw [a.run_eq] at failed ⊢
  refine ⟨?_, rfl, (represents_after calls).insertAll_unchanged_iff a⟩
  intro one
  rw [Addition.accepted_nil_of_error failed one]
  rfl

theorem failed_addition_of_two_members :
    ((Addition.json halfRefused).run (after [])).1 =
      (after []).insertAll [("<a>", [⟨"x", 1.0⟩])] ∧
    ((Addition.json halfRefused).run (after [])).1.rules ≠ (after []).rules := by
  obtain ⟨-, left, unchanged⟩ := failed_addition [] (.json halfRefused) _ error_halfRefused
  rw [accepted_halfRefused] at left unchanged
  refine ⟨left, fun same => ?_⟩
  have alone := unchanged.mp same ("<a>", [⟨"x", 1.0⟩]) (List.mem_singleton_self _)
  cases rules_insert_first.symm.trans alone

/-- A rule set that fails can leave a grammar with more rules than it had. -/
theorem failed_rule_set_adds : ¬ ∀ (g : Grammar) (text : String) (e : Error),
    (g.addJson text).2 = some e → (g.addJson text).1.rules = g.rules := by
  intro unchanged
  have same := unchanged empty halfRefused _ error_halfRefused
  have run : empty.addJson halfRefused = _ := (Addition.json halfRefused).run_eq empty
  rw [run, accepted_halfRefused] at same
  cases rules_insert_first.symm.trans same

end Grammar

end TextGen
