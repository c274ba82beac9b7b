import Mathlib
import TextGen.Proofs.Script.Residue

/-! Symbols that stay as they are.
Where a text is read as plain text, line ends and symbols, these are written one after the other as
the text was. A pass that finds no symbol bound writes them so, with blanks for the line ends, and
changes nothing. -/
namespace TextGen.Script

variable {stops : List Char} {first : Char} {c next : Cursor}

/- Names and chains. -/

theorem Cursor.rest_of_name? {name : String} (h : c.name? = some (name, next)) :
    c.rest = name.toList ++ next.rest := by
  unfold name? at h
  split at h
  · cases h
  · split at h
    · cases h
      rw [String.toList_ofList]
      exact List.takeWhile_append_dropWhile.symm
    · cases h

theorem Segment.toList_text (s : Segment) :
    s.text.toList = '.' :: (s.name.toList ++ if s.call then ['(', ')'] else []) := by
  rw [Segment.text, String.toList_append, String.toList_append]
  cases s.call <;> rfl

theorem rest_of_segment? {s : Segment} (h : segment? c = some (s, next)) :
    c.rest = s.text.toList ++ next.rest := by
  obtain ⟨⟨name, mid⟩, dotted, called⟩ := Option.map_eq_some_iff.mp h
  obtain ⟨dot, point, named⟩ := Option.bind_eq_some_iff.mp dotted
  have written : c.rest = '.' :: (name.toList ++ mid.rest) := by
    rw [Cursor.rest_of_after? point, Cursor.rest_of_name? named]
  rw [written, Segment.toList_text]
  simp only at called
  split at called
  · rename_i closed pair
    obtain ⟨opened, open_, close⟩ := Option.bind_eq_some_iff.mp pair
    cases called
    rw [Cursor.rest_of_after? open_, Cursor.rest_of_after? close]
    simp
  · cases called
    simp

theorem rest_of_chain (c : Cursor) :
    c.rest = (chain c).value.text.toList ++ (chain c).next.rest := by
  cases found : segment? c with
  | none =>
    rw [(chain_of_segment?_eq_none found).1, (chain_of_segment?_eq_none found).2]
    rfl
  | some read =>
    obtain ⟨s, mid⟩ := read
    have shorter := segment?_length_lt found
    rw [(chain_of_segment? found).1, (chain_of_segment? found).2, Chain.text_cons,
      List.append_assoc, ← rest_of_chain mid]
    exact rest_of_segment? found
termination_by c.rest.length

/- Nodes. -/

namespace Node

def isBare : Node → Bool
  | text _ | newline | symbol _ _ => true
  | _ => false

def written : Node → List Char
  | symbol name c => (Pass.unresolved name c).toList
  | n => n.literal

/-- No text goes past a line end. -/
def IsInLine (n : Node) : Prop := ∀ s, n = .text s → '\n' ∉ s.toList

end Node

theorem plain_isInLine (stops : List Char) (unsigned : first ∉ signs) :
    (plain stops first c).value.IsInLine := by
  rintro s ⟨⟩
  rw [String.toList_ofList, List.mem_cons, not_or]
  refine ⟨?_, fun mem => ?_⟩
  · rintro rfl
    exact unsigned (by decide)
  · have passed := List.mem_takeWhile_imp mem
    simp [signs] at passed

theorem written_of_readsNode {n : Node} (h : ReadsNode stops first c n next)
    (bare : n.isBare = true) : n.IsInLine ∧ first :: c.rest = n.written ++ next.rest := by
  cases h with
  | newline => exact ⟨nofun, rfl⟩
  | @symbol _ _ mid _ _ named =>
    refine ⟨nofun, ?_⟩
    have chained := rest_of_chain mid
    simp [Node.written, Pass.unresolved, Cursor.rest_of_name? named, ← chained]
  | pair shut =>
    rw [Cursor.rest_of_after? shut]
    exact ⟨by rintro s ⟨⟩; decide, rfl⟩
  | plain unsigned =>
    refine ⟨plain_isInLine stops unsigned, ?_⟩
    simp [plain, Node.written, Node.literal, Cursor.span]
  | dollar | ampersand | brace | close | bar => exact ⟨by rintro s ⟨⟩; decide, rfl⟩
  | dynamic target =>
    rw [dynamic] at bare
    split at bare
    · rename_i none
      cases target.symm.trans none
    · cases bare
  | assign | inlineAssign | choice | guardAlone | guarded => cases bare

/- Trees. -/

theorem Tree.forall_mem_cons {P : Node → Prop}
    (texts : ∀ s u, P (.text (s ++ u)) ↔ P (.text s) ∧ P (.text u)) (n : Node) (t : Tree) :
    (∀ m ∈ Tree.cons n t, P m) ↔ P n ∧ ∀ m ∈ t, P m := by
  unfold Tree.cons
  split
  · rename_i s u rest
    rw [List.forall_mem_cons, List.forall_mem_cons, texts, and_assoc]
  · exact List.forall_mem_cons

theorem Tree.flatMap_written_cons (n : Node) (t : Tree) :
    (Tree.cons n t).flatMap Node.written = n.written ++ t.flatMap Node.written := by
  unfold Tree.cons
  split
  · simp [Node.written, Node.literal]
  · rfl

/-- What was read is written again. The induction is on the derivation, whose nodes are those of the
tree but for texts that have become one. -/
theorem written_of_reads : ∀ {stops : List Char} {c next : Cursor} {t : Tree},
    Reads stops c t next → (∀ n ∈ t, n.isBare = true) →
      (∀ n ∈ t, n.IsInLine) ∧ c.rest = t.flatMap Node.written ++ next.rest
  | _, _, _, _, .done, _ => ⟨nofun, rfl⟩
  | _, _, _, _, .stop _, _ => ⟨nofun, rfl⟩
  | _, _, _, _, .cons (t := t) _ head tail, bare => by
    obtain ⟨here, later⟩ := (Tree.forall_mem_cons (by simp [Node.isBare]) _ _).mp bare
    obtain ⟨line, whole⟩ := written_of_readsNode head here
    obtain ⟨lines, more⟩ := written_of_reads tail later
    refine ⟨(Tree.forall_mem_cons (by simp [Node.IsInLine]) _ _).mpr ⟨line, lines⟩, ?_⟩
    rw [Tree.flatMap_written_cons, List.append_assoc, ← more]
    exact whole

/- Passes. -/

theorem not_mem_unresolved {name : String} {T : Chain} (named : (Node.symbol name T).isNamed = true) :
    '\n' ∉ (Pass.unresolved name T).toList := by
  rw [Node.isNamed, Bool.and_eq_true] at named
  intro mem
  simp only [Pass.unresolved, String.toList_append, List.mem_append] at mem
  rcases mem with (sign | inName) | inChain
  · exact absurd sign (by decide)
  · exact absurd (isBlank_of_isNameChar (isNameChar_of_isName named.1 _ inName)) (by decide)
  · exact absurd (Chain.isBlank_of_mem named.2 inChain) (by decide)

def Context.Lacks (context : Context) (name : String) : Prop :=
  context.get? name = none ∧ context.get? (Pass.sourceName name) = none

theorem visitNode_bare (settings : Settings) {p : Pass} (free : p.pending = []) {n : Node}
    (bare : n.isBare = true) (line : n.IsInLine) (named : n.isNamed = true)
    (lacks : ∀ name T, n = .symbol name T → p.context.Lacks name) :
    visitNode settings n p = (.ok (String.ofList (n.written.map spaced)), p) := by
  cases n with
  | text s =>
    have whole : (Node.text s).written = s.toList := rfl
    rw [whole, map_spaced_of_not_mem (line s rfl), String.ofList_toList]
    rfl
  | newline => rfl
  | symbol name T =>
    obtain ⟨plain, source⟩ := lacks name T rfl
    rw [Node.written, map_spaced_of_not_mem (not_mem_unresolved named), String.ofList_toList]
    simp [visitNode, Drawn.done, Pass.symbol, free, plain, source]
  | _ => cases bare

theorem visitTree_bare (settings : Settings) {p : Pass} (free : p.pending = []) {t : Tree}
    (bare : ∀ n ∈ t, n.isBare = true) (lines : ∀ n ∈ t, n.IsInLine)
    (named : ∀ n ∈ t, n.isNamed = true)
    (lacks : ∀ name T, Node.symbol name T ∈ t → p.context.Lacks name) :
    visitTree settings t p = (.ok (String.ofList ((t.flatMap Node.written).map spaced)), p) := by
  induction t with
  | nil => rfl
  | cons n t ih =>
    rw [List.forall_mem_cons] at bare lines named
    have first := visitNode_bare settings free bare.1 lines.1 named.1 fun name T same =>
      lacks name T (same ▸ List.mem_cons_self)
    have later := ih bare.2 lines.2 named.2 fun name T mem =>
      lacks name T (List.mem_cons_of_mem n mem)
    rw [visitTree, first]
    simp only [Drawn.andThen_ok, later, List.flatMap_cons, List.map_append, String.ofList_append]

/-- A text that is read as plain text, line ends and symbols is left as it was by a pass to which
none of the symbols is bound, neither to a value nor to a source. It is trimmed and its line ends are
shown as blanks, and nothing of the state changes. -/
theorem unbound_text_is_kept (script : Script) (number : Nat) (text : String) (t : Tree) (s : State)
    (read : Tree.ofText? text = .ok t) (bare : ∀ n ∈ t, n.isBare = true)
    (lacks : ∀ name T, Node.symbol name T ∈ t → s.context.Lacks name) :
    script.evaluatePass number text s =
      (.ok (.ok (Text.trimmed (text.map spaced), isUnfinished (Text.trimmed (text.map spaced)))),
        s) := by
  obtain ⟨next, derived⟩ := (ofText?_eq_ok_iff text t).mp read
  obtain ⟨lines, whole⟩ := written_of_reads derived bare
  rw [rest_of_reads derived, List.append_nil] at whole
  have named : ∀ n ∈ t, n.isNamed = true := by
    have all := isNamed_of_reads derived
    rwa [Tree.isNamed_eq_all, List.all_eq_true] at all
  have visited := visitTree_bare script.settings (p := { number, state := s }) rfl bare lines named
    lacks
  have shown : String.ofList ((t.flatMap Node.written).map spaced) = text.map spaced := by
    rw [← whole, Cursor.start, ← String.toList_map, String.ofList_toList]
  rw [shown] at visited
  simp only [Script.evaluatePass, read, runPass, visited, Except.map, Drawn.andThen_ok]

theorem unbound_text_is_kept_of_symbols :
    let text := " $who.cap() == $b \n$c.s.uc(). $5 () "
    let t : Tree := [.text " ", .symbol "who" [⟨"cap", true⟩], .text " == ", .symbol "b" [],
      .text " ", .newline, .symbol "c" [⟨"s", false⟩, ⟨"uc", true⟩], .text ". $5 () "]
    let s : State := { context := [("cap", .text "x"), ("&s", .text "y")], run := ⟨⟨[], 0⟩, []⟩ }
    (Tree.ofText? text = .ok t ∧ (∀ n ∈ t, n.isBare = true) ∧
      ∀ name T, Node.symbol name T ∈ t → s.context.Lacks name) ∧
    ({} : Script).evaluatePass 0 text s =
      (.ok (.ok ("$who.cap() == $b  $c.s.uc(). $5 ()", true)), s) := by
  intro text t s
  have read : Tree.ofText? text = .ok t := by
    show Tree.ofText? " $who.cap() == $b \n$c.s.uc(). $5 () " = .ok t
    with_unfolding_all rfl
  have bare : ∀ n ∈ t, n.isBare = true := by simp [t, Node.isBare]
  have lacks : ∀ name T, Node.symbol name T ∈ t → s.context.Lacks name := by
    intro name T mem
    simp only [t, List.mem_cons, Node.symbol.injEq, reduceCtorEq, List.not_mem_nil, false_or,
      or_false] at mem
    rcases mem with ⟨rfl, -⟩ | ⟨rfl, -⟩ | ⟨rfl, -⟩ <;> exact ⟨rfl, rfl⟩
  refine ⟨⟨read, bare, lacks⟩, ?_⟩
  have kept := unbound_text_is_kept {} 0 text t s read bare lacks
  have shown : Text.trimmed (text.map spaced) = "$who.cap() == $b  $c.s.uc(). $5 ()" := by
    decide +kernel
  rw [shown] at kept
  rw [kept]
  rfl

end TextGen.Script
