import Mathlib
import TextGen.Proofs.Script.Reading

/-! Names in trees.
The names of symbols and transforms in a tree that was read are names that can be read. -/
namespace TextGen.Script

mutual

def Node.isNamed : Node → Bool
  | .symbol name c => isName name && c.isNamed
  | .choice alternatives c => Alternative.areNamed alternatives && c.isNamed
  | .assign name value _ _ c => isName name && Tree.isNamed value && c.isNamed
  | .guarded _ body => Tree.isNamed body
  | _ => true

def Tree.isNamed : Tree → Bool
  | [] => true
  | n :: t => n.isNamed && Tree.isNamed t

def Alternative.areNamed : List Alternative → Bool
  | [] => true
  | .mk tree _ :: rest => Tree.isNamed tree && Alternative.areNamed rest

end

/- Putting trees together. -/

namespace Tree

theorem isNamed_eq_all (t : Tree) : isNamed t = t.all Node.isNamed := by
  induction t with
  | nil => rfl
  | cons n t ih => rw [isNamed, List.all_cons, ih]

theorem isNamed_cons (n : Node) (t : Tree) : isNamed (cons n t) = (n.isNamed && isNamed t) := by
  unfold cons
  split
  · simp [isNamed, Node.isNamed]
  · rfl

theorem isNamed_mapLast {f : Node → Node} (kept : ∀ n, n.isNamed = true → (f n).isNamed = true)
    {t : Tree} (h : isNamed t = true) : isNamed (mapLast f t) = true := by
  induction t with
  | nil => rfl
  | cons n t ih =>
    rw [isNamed, Bool.and_eq_true] at h
    cases t with
    | nil =>
      rw [mapLast, isNamed, kept n h.1]
      rfl
    | cons m t =>
      rw [mapLast, isNamed, h.1, ih h.2]
      · rfl
      · exact fun none => by cases none

theorem isNamed_trim {t : Tree} (h : isNamed t = true) : isNamed t.trim = true := by
  have start : ∀ n : Node, n.isNamed = true → (trimNodeStart n).isNamed = true := by
    intro n named
    cases n <;> exact named
  have last : ∀ n : Node, n.isNamed = true → (trimNodeEnd n).isNamed = true := by
    intro n named
    cases n <;> exact named
  have kept : ∀ u : Tree, isNamed u = true → isNamed (u.filter (!isBlankText ·)) = true := by
    intro u named
    rw [isNamed_eq_all, List.all_eq_true] at named ⊢
    exact fun n mem => named n (List.mem_of_mem_filter mem)
  unfold trim
  apply kept
  apply isNamed_mapLast last
  cases t with
  | nil => rfl
  | cons n t =>
    rw [isNamed, Bool.and_eq_true] at h
    rw [isNamed, start n h.1, h.2]
    rfl

end Tree

theorem Alternative.areNamed_cons (a : Alternative) (rest : List Alternative) :
    areNamed (a :: rest) = (Tree.isNamed a.tree && areNamed rest) := by
  cases a
  rfl

theorem Alternative.isNamed_ofTree {t : Tree} (h : Tree.isNamed t = true) :
    Tree.isNamed (Alternative.ofTree t).tree = true := by
  unfold ofTree
  split
  · split
    · split
      · exact Tree.isNamed_trim h
      · exact Tree.isNamed_trim (Tree.isNamed_mapLast (fun _ _ => rfl) h)
    · exact Tree.isNamed_trim h
  · exact Tree.isNamed_trim h

/- Reading. -/

variable {c next : Cursor}

theorem isName_of_name? {name : String} (h : c.name? = some (name, next)) : isName name = true := by
  obtain ⟨first, rest, split, start, _⟩ := Cursor.exists_of_name? h
  obtain ⟨b, text⟩ := c
  simp only at split
  subst split
  simp only [Cursor.name?, start, if_true, Option.some.injEq, Prod.mk.injEq] at h
  rw [← h.1, isName, String.toList_ofList]
  simp only [Cursor.span, List.takeWhile_cons, Cursor.isNameChar_of_isNameStart start, if_true]
  rw [start, Bool.true_and, List.all_eq_true]
  exact fun x mem => List.mem_takeWhile_imp mem

theorem isName_of_target? {name : String} (h : target? c = some (name, next)) :
    isName name = true := by
  obtain ⟨mid, named, _⟩ := exists_name?_of_target? h
  exact isName_of_name? named

theorem isName_of_segment? {s : Segment} (h : segment? c = some (s, next)) :
    isName s.name = true := by
  obtain ⟨⟨name, mid⟩, named, same⟩ := Option.map_eq_some_iff.mp h
  obtain ⟨dot, _, found⟩ := Option.bind_eq_some_iff.mp named
  have isOne := isName_of_name? found
  simp only at same
  split at same <;> cases same <;> exact isOne

theorem isNamed_chain (c : Cursor) : (chain c).value.isNamed = true := by
  cases found : segment? c with
  | none =>
    rw [(chain_of_segment?_eq_none found).1]
    rfl
  | some read =>
    obtain ⟨s, next⟩ := read
    have shorter := segment?_length_lt found
    rw [(chain_of_segment? found).1, Chain.isNamed, List.all_cons, isName_of_segment? found]
    exact isNamed_chain next
termination_by c.rest.length

mutual

theorem isNamed_of_reads : ∀ {stops : List Char} {c next : Cursor} {t : Tree},
    Reads stops c t next → Tree.isNamed t = true
  | _, _, _, _, .done => rfl
  | _, _, _, _, .stop _ => rfl
  | _, _, _, _, .cons _ head tail => by
    rw [Tree.isNamed_cons, isNamed_of_readsNode head, isNamed_of_reads tail]
    rfl

theorem isNamed_of_readsNode : ∀ {stops : List Char} {first : Char} {c next : Cursor} {n : Node},
    ReadsNode stops first c n next → n.isNamed = true
  | _, _, _, _, _, .newline => rfl
  | _, _, _, _, _, .assign target value => by
    rw [Node.isNamed, isName_of_target? target, Tree.isNamed_trim (isNamed_of_reads value)]
    rfl
  | _, _, _, _, _, .symbol _ named => by
    rw [Node.isNamed, isName_of_name? named, isNamed_chain]
    rfl
  | _, _, _, _, _, .dollar _ => rfl
  | stops, _, _, _, _, .dynamic target => by
    rw [dynamic]
    split <;> rfl
  | _, _, _, _, _, .ampersand _ => rfl
  | _, _, _, _, _, .pair _ => rfl
  | _, _, _, _, _, .inlineAssign _ target value _ => by
    obtain ⟨_, _, found⟩ := Option.bind_eq_some_iff.mp target
    rw [Node.isNamed, isName_of_target? found, Tree.isNamed_trim (isNamed_of_reads value),
      isNamed_chain]
    rfl
  | _, _, _, _, _, .choice _ _ body => by
    rw [Node.isNamed, areNamed_of_reads body, isNamed_chain]
    rfl
  | _, _, _, _, _, .brace _ => rfl
  | _, _, _, _, _, .guardAlone _ _ => rfl
  | _, _, _, _, _, .guarded _ _ _ _ body => by
    rw [Node.isNamed, Tree.isNamed, isNamed_of_readsNode body]
    rfl
  | _, _, _, _, _, .close => rfl
  | _, _, _, _, _, .bar => rfl
  | _, _, _, _, _, .plain _ => rfl

theorem areNamed_of_reads : ∀ {c closed : Cursor} {found : List Alternative},
    ReadsAlternatives c found closed → Alternative.areNamed found = true
  | _, _, _, .more head _ tail => by
    rw [Alternative.areNamed_cons, Alternative.isNamed_ofTree (isNamed_of_reads head),
      areNamed_of_reads tail]
    rfl
  | _, _, _, .last head _ _ => by
    rw [Alternative.areNamed_cons, Alternative.isNamed_ofTree (isNamed_of_reads head)]
    rfl

end

theorem isNamed_of_ofText? {text : String} {t : Tree} (h : Tree.ofText? text = .ok t) :
    Tree.isNamed t = true := by
  obtain ⟨next, read⟩ := (ofText?_eq_ok_iff text t).mp h
  exact isNamed_of_reads read

end TextGen.Script
