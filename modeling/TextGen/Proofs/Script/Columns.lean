import Mathlib
import TextGen.Script.Pass

/-! Columns in trees.
An assignment keeps the column of its sign, and a pass asks only whether it is 0. So trees whose
columns are 0 at the same places are alike: every pass does the same with them. -/
namespace TextGen.Script

mutual

def Node.mapColumn (f : Nat → Nat) : Node → Node
  | .choice alternatives c => .choice (Alternative.mapColumns f alternatives) c
  | .assign name value column inParens c =>
    .assign name (Tree.mapColumns f value) (f column) inParens c
  | .guarded conditions body => .guarded conditions (Tree.mapColumns f body)
  | n => n

def Tree.mapColumns (f : Nat → Nat) : Tree → Tree
  | [] => []
  | n :: t => n.mapColumn f :: Tree.mapColumns f t

def Alternative.mapColumn (f : Nat → Nat) : Alternative → Alternative
  | .mk tree weight? => .mk (Tree.mapColumns f tree) weight?

def Alternative.mapColumns (f : Nat → Nat) : List Alternative → List Alternative
  | [] => []
  | a :: rest => a.mapColumn f :: Alternative.mapColumns f rest

end

variable {f : Nat → Nat}

theorem Tree.mapColumns_eq_map (t : Tree) : Tree.mapColumns f t = List.map (Node.mapColumn f) t := by
  induction t with
  | nil => rfl
  | cons n t ih => rw [Tree.mapColumns, List.map_cons, ih]

theorem Alternative.mapColumns_eq_map (alternatives : List Alternative) :
    Alternative.mapColumns f alternatives = alternatives.map (Alternative.mapColumn f) := by
  induction alternatives with
  | nil => rfl
  | cons a rest ih => rw [Alternative.mapColumns, List.map_cons, ih]

@[simp] theorem Node.mapColumn_text (s : String) : (Node.text s).mapColumn f = .text s := rfl

/- Columns do not take part in putting trees together. -/

namespace Tree

theorem mapColumns_cons (n : Node) (t : Tree) :
    mapColumns f (cons n t) = cons (n.mapColumn f) (mapColumns f t) := by
  cases n with
  | text s =>
    cases t with
    | nil => rfl
    | cons m t => cases m <;> rfl
  | _ => cases t <;> rfl

theorem mapColumns_mapLast (g h : Node → Node) (same : ∀ n, (g n).mapColumn f = h (n.mapColumn f))
    (t : Tree) : mapColumns f (mapLast g t) = mapLast h (mapColumns f t) := by
  induction t with
  | nil => rfl
  | cons n t ih =>
    cases t with
    | nil => simp only [mapLast, mapColumns, same]
    | cons m t =>
      simp only [mapLast, mapColumns] at ih ⊢
      rw [ih]

theorem mapColumn_trimNodeStart (n : Node) :
    (trimNodeStart n).mapColumn f = trimNodeStart (n.mapColumn f) := by
  cases n <;> rfl

theorem mapColumn_trimNodeEnd (n : Node) :
    (trimNodeEnd n).mapColumn f = trimNodeEnd (n.mapColumn f) := by
  cases n <;> rfl

theorem isBlankText_mapColumn (n : Node) : isBlankText (n.mapColumn f) = isBlankText n := by
  cases n <;> rfl

theorem mapColumns_trim (t : Tree) : mapColumns f t.trim = (mapColumns f t).trim := by
  have kept : ∀ u : Tree, mapColumns f (u.filter (!isBlankText ·)) =
      (mapColumns f u).filter (!isBlankText ·) := by
    intro u
    rw [mapColumns_eq_map, mapColumns_eq_map, List.filter_map]
    congr 1
    refine List.filter_congr fun n _ => ?_
    rw [Function.comp_apply, isBlankText_mapColumn]
  cases t with
  | nil => rfl
  | cons n t =>
    simp only [trim, mapColumns]
    rw [kept, mapColumns_mapLast _ _ mapColumn_trimNodeEnd, mapColumns, mapColumn_trimNodeStart]

theorem getLast?_mapColumns (t : Tree) :
    (mapColumns f t).getLast? = t.getLast?.map (Node.mapColumn f) := by
  rw [mapColumns_eq_map, List.getLast?_map]

theorem length_mapColumns (t : Tree) : (mapColumns f t).length = t.length := by
  rw [mapColumns_eq_map, List.length_map]

end Tree

theorem Alternative.mapColumn_ofTree (t : Tree) :
    (Alternative.ofTree t).mapColumn f = Alternative.ofTree (Tree.mapColumns f t) := by
  unfold Alternative.ofTree
  rw [Tree.getLast?_mapColumns, Tree.length_mapColumns]
  cases last : t.getLast? with
  | none => simp [Alternative.mapColumn, Tree.mapColumns_trim]
  | some n =>
    cases n with
    | text s =>
      simp only [Option.map_some, Node.mapColumn_text]
      cases weighted? s with
      | none => simp [Alternative.mapColumn, Tree.mapColumns_trim]
      | some found =>
        obtain ⟨kept, w⟩ := found
        have replaced := Tree.mapColumns_mapLast (fun _ => .text kept) (fun _ => .text kept)
          (fun _ => Node.mapColumn_text (f := f) kept) t
        simp only
        split
        · simp [Alternative.mapColumn, Tree.mapColumns_trim]
        · simp [Alternative.mapColumn, Tree.mapColumns_trim, replaced]
    | _ => simp [Node.mapColumn, Alternative.mapColumn, Tree.mapColumns_trim]

theorem Alternative.weight_mapColumns (alternatives : List Alternative) :
    (Alternative.mapColumns f alternatives).map weight = alternatives.map weight := by
  rw [mapColumns_eq_map, List.map_map]
  refine List.map_congr_left fun a _ => ?_
  cases a
  rfl

/- Passes. -/

/-- What a pass sees of a column. -/
def lineStart (column : Nat) : Nat := min column 1

/-- Equal but for columns that are not 0. -/
def Tree.Alike (t u : Tree) : Prop := Tree.mapColumns lineStart t = Tree.mapColumns lineStart u

mutual

theorem visitTree_mapColumns (settings : Settings) :
    ∀ (t : Tree) (p : Pass),
      visitTree settings (Tree.mapColumns lineStart t) p = visitTree settings t p
  | [], _ => rfl
  | n :: t, p => by
    simp only [Tree.mapColumns, visitTree, visitNode_mapColumn settings n,
      visitTree_mapColumns settings t]

theorem visitNode_mapColumn (settings : Settings) :
    ∀ (n : Node) (p : Pass),
      visitNode settings (n.mapColumn lineStart) p = visitNode settings n p
  | .text _, _ => rfl
  | .newline, _ => rfl
  | .symbol _ _, _ => rfl
  | .dynamic _ _, _ => rfl
  | .choice alternatives c, p => by
    simp only [Node.mapColumn, visitNode, visitNth_mapColumns settings alternatives,
      Alternative.weight_mapColumns alternatives]
  | .assign name value column inParens c, p => by
    have start : (lineStart column = 0) = (column = 0) := by
      rw [lineStart]
      exact propext ⟨fun h => by omega, fun h => by omega⟩
    simp only [Node.mapColumn, visitNode, visitTree_mapColumns settings value, start]
  | .guarded conditions body, p => by
    simp only [Node.mapColumn, visitNode, visitTree_mapColumns settings body]

theorem visitNth_mapColumns (settings : Settings) :
    ∀ (alternatives : List Alternative) (i : Nat) (p : Pass),
      visitNth settings (Alternative.mapColumns lineStart alternatives) i p =
        visitNth settings alternatives i p
  | [], _, _ => rfl
  | .mk tree weight? :: _, 0, p => by
    simp only [Alternative.mapColumns, Alternative.mapColumn, visitNth, visitAlternative,
      visitTree_mapColumns settings tree]
  | _ :: rest, i + 1, p => by
    simp only [Alternative.mapColumns, visitNth, visitNth_mapColumns settings rest]

end

theorem visitTree_of_alike (settings : Settings) {t u : Tree} (h : t.Alike u) (p : Pass) :
    visitTree settings t p = visitTree settings u p := by
  rw [← visitTree_mapColumns, h, visitTree_mapColumns]

end TextGen.Script
