import Mathlib
import TextGen.Proofs.Script.Literal
import TextGen.Proofs.Script.Naming
import TextGen.Proofs.Text.Trimming

/-! What a pass writes, piece by piece.
A piece is what one node writes: a text, a symbol that is left as it is, or an assignment or a choice
that is left for the next pass, with the pieces in it. The pieces of a pass one after the other are
its text. -/
namespace TextGen.Script

inductive Piece where
  | text (s : String)
  | symbol (name : String) (chain : Chain)
  | assign (name : String) (value : List Piece) (chain : Chain)
  | choice (body : List Piece) (chain : Chain)

mutual

def Piece.print : Piece → String
  | .text s => s
  | .symbol name c => Pass.unresolved name c
  | .assign name value c => Pass.deferred name (printAll value) c
  | .choice body c => "(" ++ printAll body ++ ")" ++ c.text

def printAll : List Piece → String
  | [] => ""
  | piece :: pieces => piece.print ++ printAll pieces

end

mutual

def Piece.left : Piece → List (String × Chain)
  | .text _ => []
  | .symbol name c => [(name, c)]
  | .assign _ value _ => leftIn value
  | .choice body _ => leftIn body

def leftIn : List Piece → List (String × Chain)
  | [] => []
  | piece :: pieces => piece.left ++ leftIn pieces

end

mutual

/-- Whether names can be read, and what is left for the next pass needs one. -/
def Piece.isMade : Piece → Bool
  | .text _ => true
  | .symbol name c => isName name && c.isNamed
  | .assign name value c =>
    isName name && c.isNamed && isUnfinished (printAll value) && areMade value
  | .choice body c => c.isNamed && isUnfinished (printAll body) && areMade body

def areMade : List Piece → Bool
  | [] => true
  | piece :: pieces => piece.isMade && areMade pieces

end

def trimmedStart : List Piece → List Piece
  | .text s :: pieces =>
    if Text.trimStart s.toList = [] then trimmedStart pieces
    else .text (String.ofList (Text.trimStart s.toList)) :: pieces
  | pieces => pieces

/-- A piece without blanks at its end, if something is left of it. -/
def Piece.trimmedLast : Piece → List Piece
  | .text s =>
    if Text.trimEnd s.toList = [] then [] else [.text (String.ofList (Text.trimEnd s.toList))]
  | piece => [piece]

def trimmedEnd : List Piece → List Piece
  | [] => []
  | piece :: pieces =>
    match trimmedEnd pieces with
    | [] => piece.trimmedLast
    | next :: rest => piece :: next :: rest

def trimmedPieces (pieces : List Piece) : List Piece := trimmedEnd (trimmedStart pieces)

/-- Whether a symbol is left as it is written: it waits for its value, or has neither a value nor a
source. -/
def Pass.leaves (p : Pass) (name : String) : Bool :=
  p.pending.contains name ||
    ((p.context.get? name).isNone && (p.context.get? (Pass.sourceName name)).isNone)

mutual

/-- The pieces that a pass writes for a tree, if no draw fails. -/
def residue (settings : Settings) : List Node → Pass → List Piece
  | [], _ => []
  | n :: rest, p => residueNode settings n p ++ residue settings rest (visitNode settings n p).2

def residueNode (settings : Settings) : Node → Pass → List Piece
  | .text s, _ => [.text s]
  | .newline, _ => [.text " "]
  | .symbol name c, p =>
    if p.leaves name then [.symbol name c] else [.text (p.symbol settings name c).1]
  | .choice alternatives c, p =>
    let id := p.visited + 1
    match Pass.choose { p with visited := id } id (alternatives.map Alternative.weight)
      (Policy.ofChain c) with
    | (.ok (some i), q) =>
      match residueNth settings alternatives i q with
      | none => []
      | some pieces =>
        if c.effective = [] then pieces
        else if isUnfinished (printAll pieces) then [.choice pieces c.effective]
        -- a finished text is transformed as a whole
        else
          let q := (visitNth settings alternatives i q).2
          [.text (q.finishChoice settings id (printAll pieces) c).1]
    | _ => []
  | .assign name value column inParens c, p =>
    let pieces := trimmedPieces (residue settings value p)
    if !inParens && column = 0 then []
    else if isUnfinished (printAll pieces) then [.assign name pieces c]
    else
      let q := (visitTree settings value p).2
      [.text (q.assign settings name (printAll pieces) false c).1]
  | .dynamic _ _, _ => []
  | .guarded conditions body, p =>
    match p.meets conditions with
    | (true, q) => residue settings body q
    | (false, _) => []

def residueNth (settings : Settings) : List Alternative → Nat → Pass → Option (List Piece)
  | [], _, _ => none
  | .mk tree _ :: _, 0, p => some (residue settings tree p)
  | _ :: rest, i + 1, p => residueNth settings rest i p

end

mutual

/-- The symbols that a pass leaves as they are in what it writes for a tree. -/
def leftBy (settings : Settings) : List Node → Pass → List (String × Chain)
  | [], _ => []
  | n :: rest, p => leftByNode settings n p ++ leftBy settings rest (visitNode settings n p).2

def leftByNode (settings : Settings) : Node → Pass → List (String × Chain)
  | .symbol name c, p => if p.leaves name then [(name, c)] else []
  | .choice alternatives c, p =>
    let id := p.visited + 1
    match Pass.choose { p with visited := id } id (alternatives.map Alternative.weight)
      (Policy.ofChain c) with
    | (.ok (some i), q) => leftByNth settings alternatives i q
    | _ => []
  | .assign _ value column inParens _, p =>
    if !inParens && column = 0 then [] else leftBy settings value p
  | .guarded conditions body, p =>
    match p.meets conditions with
    | (true, q) => leftBy settings body q
    | (false, _) => []
  | _, _ => []

def leftByNth (settings : Settings) : List Alternative → Nat → Pass → List (String × Chain)
  | [], _, _ => []
  | .mk tree _ :: _, 0, p => leftBy settings tree p
  | _ :: rest, i + 1, p => leftByNth settings rest i p

end

/- Pieces one after the other. -/

@[simp] theorem Piece.print_text (s : String) : (Piece.text s).print = s := by rw [print]

theorem printAll_append (pieces more : List Piece) :
    printAll (pieces ++ more) = printAll pieces ++ printAll more := by
  induction pieces with
  | nil => exact (String.empty_append).symm
  | cons piece pieces ih => rw [List.cons_append, printAll, printAll, ih, String.append_assoc]

theorem leftIn_append (pieces more : List Piece) :
    leftIn (pieces ++ more) = leftIn pieces ++ leftIn more := by
  induction pieces with
  | nil => rfl
  | cons piece pieces ih => rw [List.cons_append, leftIn, leftIn, ih, List.append_assoc]

theorem areMade_append (pieces more : List Piece) :
    areMade (pieces ++ more) = (areMade pieces && areMade more) := by
  induction pieces with
  | nil => rfl
  | cons piece pieces ih => rw [List.cons_append, areMade, areMade, ih, Bool.and_assoc]

/- The ends of a piece. -/

theorem isBlank_of_isNameChar {c : Char} (h : Cursor.isNameChar c = true) :
    Text.isBlank c = false := by
  rw [Cursor.isNameChar, Bool.or_eq_true, decide_eq_true_eq] at h
  rcases h with letter | rfl
  · exact Text.isBlank_of_isAlphanum letter
  · decide

theorem Segment.isBlank_of_mem {s : Segment} (named : isName s.name = true) {c : Char}
    (mem : c ∈ s.text.toList) : Text.isBlank c = false := by
  rw [Segment.text, String.toList_append, String.toList_append, List.mem_append,
    List.mem_append] at mem
  rcases mem with (dot | name) | call
  · rw [List.mem_singleton.mp dot]
    decide
  · exact isBlank_of_isNameChar (isNameChar_of_isName named c name)
  · split at call
    · have pair : c = '(' ∨ c = ')' := by simpa using call
      rcases pair with rfl | rfl <;> decide
    · cases call

theorem Chain.isBlank_of_mem {T : Chain} (named : T.isNamed = true) {c : Char}
    (mem : c ∈ T.text.toList) : Text.isBlank c = false := by
  induction T with
  | nil => cases mem
  | cons s T ih =>
    rw [Chain.isNamed, List.all_cons, Bool.and_eq_true] at named
    rw [Chain.text_cons, List.mem_append] at mem
    exact mem.elim (Segment.isBlank_of_mem named.1) (ih named.2)

def Piece.isText : Piece → Bool
  | .text _ => true
  | _ => false

theorem Piece.ends {piece : Piece} (made : piece.isMade = true) (other : piece.isText = false) :
    (∃ sign rest, piece.print.toList = sign :: rest ∧ Text.isBlank sign = false) ∧
      ∀ c ∈ piece.print.toList.getLast?, Text.isBlank c = false := by
  have last : ∀ (front : List Char) (sign : Char) (T : Chain), Text.isBlank sign = false →
      T.isNamed = true → ∀ c ∈ (front ++ sign :: T.text.toList).getLast?, Text.isBlank c = false := by
    intro front sign T solid named c mem
    rw [List.getLast?_append_cons] at mem
    rcases List.mem_cons.mp (List.mem_of_getLast? mem) with rfl | inside
    · exact solid
    · exact Chain.isBlank_of_mem named inside
  cases piece with
  | text s => cases other
  | symbol name T =>
    rw [isMade, Bool.and_eq_true] at made
    have whole : (Piece.symbol name T).print.toList = '$' :: (name.toList ++ T.text.toList) := by
      simp [print, Pass.unresolved]
    refine ⟨⟨_, _, whole, by decide⟩, fun c mem => ?_⟩
    rw [whole] at mem
    rcases List.mem_cons.mp (List.mem_of_getLast? mem) with rfl | inside
    · decide
    · rcases List.mem_append.mp inside with inName | inChain
      · exact isBlank_of_isNameChar (isNameChar_of_isName made.1 c inName)
      · exact Chain.isBlank_of_mem made.2 inChain
  | assign name value T =>
    simp only [isMade, Bool.and_eq_true] at made
    have whole : (Piece.assign name value T).print.toList =
        ('(' :: '$' :: (name.toList ++ '=' :: (printAll value).toList)) ++ ')' :: T.text.toList := by
      simp [print, Pass.deferred]
    refine ⟨⟨_, _, whole, by decide⟩, ?_⟩
    rw [whole]
    exact last _ ')' T (by decide) made.1.1.2
  | choice body T =>
    simp only [isMade, Bool.and_eq_true] at made
    have whole : (Piece.choice body T).print.toList =
        ('(' :: (printAll body).toList) ++ ')' :: T.text.toList := by
      simp [print]
    refine ⟨⟨_, _, whole, by decide⟩, ?_⟩
    rw [whole]
    exact last _ ')' T (by decide) made.1.1

/- Trimming. -/

theorem trimmedStart_of_other {piece : Piece} (other : piece.isText = false) (pieces : List Piece) :
    trimmedStart (piece :: pieces) = piece :: pieces := by
  cases piece with
  | text s => cases other
  | _ => rfl

theorem printAll_trimmedStart {pieces : List Piece} (made : areMade pieces = true) :
    (printAll (trimmedStart pieces)).toList = Text.trimStart (printAll pieces).toList := by
  induction pieces with
  | nil => rfl
  | cons piece pieces ih =>
    rw [areMade, Bool.and_eq_true] at made
    cases other : piece.isText with
    | true =>
      cases piece with
      | text s =>
        rw [printAll, String.toList_append, Text.trimStart_append, trimmedStart, Piece.print_text]
        split
        · exact ih made.2
        · rw [printAll, String.toList_append, Piece.print_text, String.toList_ofList]
      | _ => cases other
    | false =>
      obtain ⟨⟨sign, rest, begins, solid⟩, _⟩ := Piece.ends made.1 other
      rw [trimmedStart_of_other other, printAll, String.toList_append, begins, List.cons_append,
        Text.trimStart, List.dropWhile_cons_of_neg (by simp [solid])]

theorem areMade_trimmedStart {pieces : List Piece} (made : areMade pieces = true) :
    areMade (trimmedStart pieces) = true := by
  induction pieces with
  | nil => rfl
  | cons piece pieces ih =>
    cases piece with
    | text s =>
      rw [areMade, Bool.and_eq_true] at made
      rw [trimmedStart]
      split
      · exact ih made.2
      · exact made.2
    | _ => exact made

theorem leftIn_trimmedStart (pieces : List Piece) : leftIn (trimmedStart pieces) = leftIn pieces := by
  induction pieces with
  | nil => rfl
  | cons piece pieces ih =>
    cases piece with
    | text s =>
      rw [trimmedStart]
      split
      · exact ih
      · rfl
    | _ => rfl

theorem Piece.trimmedLast_spec {piece : Piece} (made : piece.isMade = true) :
    (printAll piece.trimmedLast).toList = Text.trimEnd piece.print.toList ∧
      (Text.trimEnd piece.print.toList = [] ↔ piece.trimmedLast = []) ∧
      areMade piece.trimmedLast = true ∧ leftIn piece.trimmedLast = piece.left := by
  cases other : piece.isText with
  | true =>
    cases piece with
    | text s =>
      rw [trimmedLast, print_text]
      split
      · rename_i blank
        rw [blank]
        exact ⟨rfl, iff_of_true rfl rfl, rfl, rfl⟩
      · rename_i solid
        exact ⟨by simp [printAll], iff_of_false solid (List.cons_ne_nil _ _), rfl, rfl⟩
    | _ => cases other
  | false =>
    have alone : piece.trimmedLast = [piece] := by
      cases piece with
      | text s => cases other
      | _ => rfl
    obtain ⟨⟨sign, rest, begins, _⟩, last⟩ := Piece.ends made other
    rw [alone, Text.trimEnd_eq_self last, areMade, made]
    refine ⟨by simp [printAll], iff_of_false ?_ (List.cons_ne_nil _ _), rfl, by simp [leftIn]⟩
    rw [begins]
    exact List.cons_ne_nil _ _

theorem trimmedEnd_spec {pieces : List Piece} (made : areMade pieces = true) :
    (printAll (trimmedEnd pieces)).toList = Text.trimEnd (printAll pieces).toList ∧
      (Text.trimEnd (printAll pieces).toList = [] ↔ trimmedEnd pieces = []) ∧
      areMade (trimmedEnd pieces) = true ∧ leftIn (trimmedEnd pieces) = leftIn pieces := by
  induction pieces with
  | nil => exact ⟨rfl, iff_of_true rfl rfl, rfl, rfl⟩
  | cons piece pieces ih =>
    rw [areMade, Bool.and_eq_true] at made
    obtain ⟨print, empty, kept, left⟩ := ih made.2
    rw [printAll, String.toList_append, Text.trimEnd_append, trimmedEnd, leftIn]
    split
    · rename_i none
      rw [none] at left
      rw [if_pos (empty.mpr none), ← left, leftIn, List.append_nil]
      exact Piece.trimmedLast_spec made.1
    · rename_i next rest some_
      have solid : Text.trimEnd (printAll pieces).toList ≠ [] := by
        rw [ne_eq, empty, some_]
        exact List.cons_ne_nil _ _
      rw [some_] at print kept left
      rw [if_neg solid, printAll, String.toList_append, print, areMade, made.1, kept, leftIn, left]
      refine ⟨rfl, iff_of_false ?_ (List.cons_ne_nil _ _), rfl, rfl⟩
      exact List.append_ne_nil_of_right_ne_nil _ solid

/- What is left. -/

mutual

theorem Piece.holdsConstruct_of_left : ∀ {piece : Piece} (rest : List Char),
    piece.isMade = true → piece.left ≠ [] → holdsConstruct (piece.print.toList ++ rest) = true
  | .text _, _, _, some_ => absurd rfl some_
  | .symbol name T, rest, made, _ => by
    rw [Piece.isMade, Bool.and_eq_true, isName] at made
    cases letters : name.toList with
    | nil => simp [letters] at made
    | cons first more =>
      simp only [letters, Bool.and_eq_true] at made
      simp [Piece.print, Pass.unresolved, letters, holdsConstruct, opensConstruct, made.1.1]
  | .assign name value T, rest, _, _ => by
    simp [Piece.print, Pass.deferred, holdsConstruct, opensConstruct]
  | .choice body T, rest, made, some_ => by
    simp only [Piece.isMade, Bool.and_eq_true] at made
    have inside := holdsConstruct_of_leftIn (')' :: (T.text.toList ++ rest)) made.2 some_
    have whole : (Piece.choice body T).print.toList ++ rest =
        '(' :: ((printAll body).toList ++ ')' :: (T.text.toList ++ rest)) := by
      simp [Piece.print]
    rw [whole, holdsConstruct, inside, Bool.or_true]

theorem holdsConstruct_of_leftIn : ∀ {pieces : List Piece} (rest : List Char),
    areMade pieces = true → leftIn pieces ≠ [] →
      holdsConstruct ((printAll pieces).toList ++ rest) = true
  | [], _, _, some_ => absurd rfl some_
  | piece :: pieces, rest, made, some_ => by
    rw [areMade, Bool.and_eq_true] at made
    rw [printAll, String.toList_append, List.append_assoc]
    by_cases first : piece.left = []
    · rw [leftIn, first, List.nil_append] at some_
      have later := holdsConstruct_of_leftIn rest made.2 some_
      by_contra none
      rw [holdsConstruct_of_append (by simpa using none)] at later
      cases later
    · exact Piece.holdsConstruct_of_left _ made.1 first

end

/- What a pass writes. -/

/-- Pieces that are written as a text and leave symbols in it. -/
structure Writes (pieces : List Piece) (text : String) (left : List (String × Chain)) : Prop where
  made : areMade pieces = true
  print : printAll pieces = text
  left : leftIn pieces = left

namespace Writes

variable {pieces more : List Piece} {text text' : String} {left left' : List (String × Chain)}

theorem nil : Writes [] "" [] := ⟨rfl, rfl, rfl⟩

theorem alone {piece : Piece} (made : piece.isMade = true) (print : piece.print = text)
    (same : piece.left = left) : Writes [piece] text left := by
  refine ⟨?_, ?_, ?_⟩
  · rw [areMade, made]
    rfl
  · rw [printAll, print]
    exact String.append_empty
  · rw [leftIn, same]
    exact List.append_nil _

theorem ofText (s : String) : Writes [.text s] s [] := alone rfl (Piece.print_text s) rfl

theorem append (h : Writes pieces text left) (h' : Writes more text' left') :
    Writes (pieces ++ more) (text ++ text') (left ++ left') :=
  ⟨by rw [areMade_append, h.made, h'.made]; rfl, by rw [printAll_append, h.print, h'.print],
    by rw [leftIn_append, h.left, h'.left]⟩

theorem trimmed (h : Writes pieces text left) :
    Writes (trimmedPieces pieces) (Text.trimmed text) left := by
  obtain ⟨print, _, kept, same⟩ := trimmedEnd_spec (areMade_trimmedStart h.made)
  refine ⟨kept, ?_, same.trans ((leftIn_trimmedStart pieces).trans h.left)⟩
  rw [printAll_trimmedStart h.made, h.print] at print
  rw [← String.ofList_toList (s := printAll (trimmedPieces pieces)), trimmedPieces, print]
  rfl

theorem eq_nil_of_finished (h : Writes pieces text left) (done : isUnfinished text = false) :
    left = [] := by
  by_contra some_
  rw [← h.left] at some_
  have held := holdsConstruct_of_leftIn [] h.made some_
  rw [List.append_nil, h.print, ← isUnfinished, done] at held
  cases held

theorem ofFinished (h : Writes pieces text left) (done : isUnfinished text = false) (out : String) :
    Writes [.text out] out left := by
  rw [h.eq_nil_of_finished done]
  exact .ofText out

theorem choice (h : Writes pieces text left) {T : Chain} (named : T.isNamed = true)
    {out finished : String} (plain : T = [] → out = text)
    (deferred : T ≠ [] → isUnfinished text = true → out = "(" ++ text ++ ")" ++ T.text)
    (same : finished = out) :
    Writes
      (if T = [] then pieces
      else if isUnfinished (printAll pieces) then [.choice pieces T]
      else [.text finished]) out left := by
  subst same
  by_cases none : T = []
  · rw [if_pos none, plain none]
    exact h
  rw [if_neg none, h.print]
  cases open_ : isUnfinished text with
  | true =>
    rw [deferred none open_]
    refine alone ?_ ?_ h.left
    · rw [Piece.isMade, named, h.print, open_, h.made]
      rfl
    · rw [Piece.print, h.print]
  | false => exact h.ofFinished open_ finished

theorem assign (h : Writes pieces text left) {name : String} {T : Chain} (ident : isName name = true)
    (named : T.isNamed = true) {out finished : String}
    (deferred : isUnfinished text = true → out = Pass.deferred name text T)
    (same : finished = out) :
    Writes (if isUnfinished (printAll pieces) then [.assign name pieces T] else [.text finished]) out
      left := by
  subst same
  rw [h.print]
  cases open_ : isUnfinished text with
  | true =>
    rw [deferred open_]
    refine alone ?_ ?_ h.left
    · rw [Piece.isMade, ident, named, h.print, open_, h.made]
      rfl
    · rw [Piece.print, h.print]
  | false => exact h.ofFinished open_ finished

end Writes

theorem symbol_of_leaves {p : Pass} {name : String} (h : p.leaves name = true)
    (settings : Settings) (T : Chain) : (p.symbol settings name T).1 = Pass.unresolved name T := by
  rw [Pass.leaves, Bool.or_eq_true, Bool.and_eq_true, Option.isNone_iff_eq_none,
    Option.isNone_iff_eq_none] at h
  rw [Pass.symbol]
  split
  · rfl
  · rename_i waits
    obtain ⟨value, source⟩ := h.resolve_left waits
    rw [value, source]

theorem Chain.isNamed_effective {T : Chain} (h : T.isNamed = true) : T.effective.isNamed = true := by
  rw [isNamed, List.all_eq_true] at h ⊢
  exact fun s mem => h s (List.mem_of_mem_filter mem)

variable (settings : Settings)

mutual

theorem writes_residue : ∀ {t : Tree} (p : Pass) (out : String), Tree.isNamed t = true →
    (visitTree settings t p).1 = .ok out →
    Writes (residue settings t p) out (leftBy settings t p)
  | [], _, _, _, .refl _ => .nil
  | n :: t, p, out, named, returned => by
    rw [Tree.isNamed, Bool.and_eq_true] at named
    rw [visitTree, Drawn.andThen_fst_eq_ok] at returned
    obtain ⟨first, here, later⟩ := returned
    obtain ⟨more, there, same⟩ := Drawn.andThen_fst_eq_ok.mp later
    cases same
    rw [residue, leftBy]
    exact (writes_residueNode p first named.1 here).append (writes_residue _ more named.2 there)

theorem writes_residueNode : ∀ {n : Node} (p : Pass) (out : String), n.isNamed = true →
    (visitNode settings n p).1 = .ok out →
    Writes (residueNode settings n p) out (leftByNode settings n p)
  | .text s, _, _, _, .refl _ => .ofText s
  | .newline, _, _, _, .refl _ => .ofText " "
  | .dynamic _ _, _, _, _, .refl _ => .nil
  | .symbol name T, p, _, named, .refl _ => by
    rw [residueNode, leftByNode]
    cases waits : p.leaves name with
    | true =>
      rw [symbol_of_leaves waits]
      have made : (Piece.symbol name T).isMade = true := named
      exact .alone made rfl rfl
    | false => exact .ofText _
  | .choice alternatives T, p, out, named, returned => by
    rw [Node.isNamed, Bool.and_eq_true] at named
    rw [visitNode] at returned
    obtain ⟨pick, chosen, later⟩ := Drawn.andThen_fst_eq_ok.mp returned
    rw [residueNode, leftByNode]
    generalize Pass.choose { p with visited := p.visited + 1 } (p.visited + 1)
      (alternatives.map Alternative.weight) (Policy.ofChain T) = made at chosen later ⊢
    obtain ⟨_, q⟩ := made
    cases chosen
    cases pick with
    | none =>
      cases later
      exact .nil
    | some i =>
      obtain ⟨text?, found, shown⟩ := Drawn.andThen_fst_eq_ok.mp later
      dsimp only
      rcases writes_residueNth i q text? named.1 found with
        ⟨rfl, none, nothing⟩ | ⟨text, pieces, rfl, some_, inside⟩
      · cases shown
        rw [none, nothing]
        exact .nil
      · cases shown
        rw [some_]
        refine inside.choice (Chain.isNamed_effective named.2) ?_ ?_ ?_
        · intro none
          simp [Pass.finishChoice, none]
        · intro some_ open_
          simp [Pass.finishChoice, some_, open_]
        · rw [inside.print]
  | .assign name value column inParens T, p, out, named, returned => by
    rw [Node.isNamed, Bool.and_eq_true, Bool.and_eq_true] at named
    rw [visitNode] at returned
    obtain ⟨text, found, shown⟩ := Drawn.andThen_fst_eq_ok.mp returned
    cases shown
    have inside := (writes_residue p text named.1.2 found).trimmed
    rw [residueNode, leftByNode]
    by_cases statement : (!inParens && decide (column = 0)) = true
    · rw [if_pos statement, if_pos statement, Pass.assign, if_pos statement]
      exact .nil
    · rw [if_neg statement, if_neg statement, eq_false_of_ne_true statement]
      refine inside.assign named.1.1 named.2 ?_ ?_
      · intro open_
        simp [Pass.assign, open_]
      · rw [inside.print]
  | .guarded conditions body, p, out, named, returned => by
    rw [visitNode] at returned
    rw [residueNode, leftByNode]
    generalize p.meets conditions = met at returned ⊢
    obtain ⟨held, q⟩ := met
    cases held with
    | true => exact writes_residue q out named returned
    | false =>
      cases returned
      exact .nil

theorem writes_residueNth : ∀ {alternatives : List Alternative} (i : Nat) (p : Pass)
    (out? : Option String), Alternative.areNamed alternatives = true →
    (visitNth settings alternatives i p).1 = .ok out? →
    (out? = none ∧ residueNth settings alternatives i p = none ∧
        leftByNth settings alternatives i p = []) ∨
      ∃ out pieces, out? = some out ∧ residueNth settings alternatives i p = some pieces ∧
        Writes pieces out (leftByNth settings alternatives i p)
  | [], _, _, _, _, .refl _ => .inl ⟨rfl, rfl, rfl⟩
  | .mk tree _ :: _, 0, p, _, named, returned => by
    rw [Alternative.areNamed, Bool.and_eq_true] at named
    obtain ⟨text, found, same⟩ := Drawn.andThen_fst_eq_ok.mp returned
    cases same
    exact .inr ⟨text, _, rfl, rfl, writes_residue p text named.1 found⟩
  | .mk _ _ :: rest, i + 1, p, out?, named, returned => by
    rw [Alternative.areNamed, Bool.and_eq_true] at named
    exact writes_residueNth i p out? named.2 returned

end

end TextGen.Script
