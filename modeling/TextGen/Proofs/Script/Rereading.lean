import Mathlib
import TextGen.Proofs.Script.Appending
import TextGen.Proofs.Script.Reemission
import TextGen.Proofs.Script.Residue

/-! What a pass writes, read again.
The text of a pass is read as the trees of its pieces, one after the other, if each piece keeps apart
from what follows it. What is left for the next pass is then what it was, and nothing comes of pieces
that only happen to meet, or of a line end that has become a blank. -/
namespace TextGen.Script

mutual

def Piece.tree : Piece → Tree
  | .text s => (Tree.ofText? s).toOption.getD []
  | .symbol name c => [.symbol name c]
  | .assign name value c => [.assign name (Tree.trim (trees value)) 1 true c]
  | .choice body c => [.choice [.mk (Tree.trim (trees body)) none] c]

def trees : List Piece → Tree
  | [] => []
  | piece :: pieces => piece.tree.joined (trees pieces)

end

mutual

/-- Whether a piece is read as its tree: a text must be readable, and what is left between
parentheses must not close or part them or begin as something else. -/
def Piece.isApart : Piece → Bool
  | .text s => (Tree.ofText? s).isOk
  | .symbol _ _ => true
  | .assign _ value _ =>
    areApart value && (printAll value).toList.head? ≠ some '=' &&
      !opensStatement (Cursor.start (printAll value)) && Tree.clearOf [')'] (trees value)
  | .choice body _ =>
    areApart body && (inlineTarget? ⟨['('], (printAll body).toList⟩).isNone &&
      !opensStatement (Cursor.start (printAll body)) && Tree.clearOf ['|', ')'] (trees body) &&
      (Alternative.ofTree (trees body)).weight?.isNone

/-- Whether each piece is read as its tree and keeps apart from those after it. -/
def areApart : List Piece → Bool
  | [] => true
  | piece :: pieces =>
    piece.isApart && areApart pieces && keepsApart piece.print piece.tree (printAll pieces)

end

mutual

def Node.symbols : Node → List (String × Chain)
  | .symbol name c => [(name, c)]
  | .choice alternatives _ => Alternative.symbols alternatives
  | .assign _ value _ _ _ => Tree.symbols value
  | .guarded _ body => Tree.symbols body
  | _ => []

def Tree.symbols : Tree → List (String × Chain)
  | [] => []
  | n :: t => n.symbols ++ Tree.symbols t

def Alternative.symbols : List Alternative → List (String × Chain)
  | [] => []
  | .mk tree _ :: rest => Tree.symbols tree ++ Alternative.symbols rest

end

/- Columns. -/

mutual

theorem Node.clearOf_mapColumn (stops : List Char) (f : Nat → Nat) :
    ∀ n : Node, (n.mapColumn f).clearOf stops = n.clearOf stops
  | .assign _ value _ false _ => Tree.clearOf_mapColumns stops f value
  | .guarded _ body => Tree.clearOf_mapColumns stops f body
  | .assign _ _ _ true _ => rfl
  | .text _ => rfl
  | .newline => rfl
  | .symbol _ _ => rfl
  | .choice _ _ => rfl
  | .dynamic _ _ => rfl

theorem Tree.clearOf_mapColumns (stops : List Char) (f : Nat → Nat) :
    ∀ t : Tree, Tree.clearOf stops (Tree.mapColumns f t) = Tree.clearOf stops t
  | [] => rfl
  | n :: t => by
    rw [Tree.mapColumns, Tree.clearOf, Tree.clearOf, Node.clearOf_mapColumn, Tree.clearOf_mapColumns]

end

mutual

theorem Node.symbols_mapColumn (f : Nat → Nat) : ∀ n : Node, (n.mapColumn f).symbols = n.symbols
  | .choice alternatives _ => Alternative.symbols_mapColumns f alternatives
  | .assign _ value _ _ _ => Tree.symbols_mapColumns f value
  | .guarded _ body => Tree.symbols_mapColumns f body
  | .text _ => rfl
  | .newline => rfl
  | .symbol _ _ => rfl
  | .dynamic _ _ => rfl

theorem Tree.symbols_mapColumns (f : Nat → Nat) :
    ∀ t : Tree, Tree.symbols (Tree.mapColumns f t) = Tree.symbols t
  | [] => rfl
  | n :: t => by
    rw [Tree.mapColumns, Tree.symbols, Tree.symbols, Node.symbols_mapColumn, Tree.symbols_mapColumns]

theorem Alternative.symbols_mapColumns (f : Nat → Nat) : ∀ alternatives : List Alternative,
    Alternative.symbols (Alternative.mapColumns f alternatives) = Alternative.symbols alternatives
  | [] => rfl
  | .mk tree _ :: rest => by
    rw [Alternative.mapColumns, Alternative.mapColumn, Alternative.symbols, Alternative.symbols,
      Tree.symbols_mapColumns, Alternative.symbols_mapColumns]

end

theorem Node.isOpen_mapColumn (f : Nat → Nat) : ∀ n : Node, (n.mapColumn f).isOpen = n.isOpen
  | .guarded _ [] => rfl
  | .guarded _ (n :: _) => by
    have text : (n.mapColumn f).isText = n.isText := by cases n <;> rfl
    rw [mapColumn, Tree.mapColumns, isOpen, isOpen, text, isOpen_mapColumn f n]
  | .text _ => rfl
  | .newline => rfl
  | .symbol _ _ => rfl
  | .choice _ _ => rfl
  | .assign _ _ _ _ _ => rfl
  | .dynamic _ _ => rfl

namespace Tree.Alike

variable {t u : Tree}

theorem congr {β : Type} (h : t.Alike u) {f : Tree → β}
    (blind : ∀ t, f (mapColumns lineStart t) = f t) : f t = f u := by
  rw [← blind t, h, blind u]

theorem clearOf (h : t.Alike u) (stops : List Char) : Tree.clearOf stops t = Tree.clearOf stops u :=
  h.congr (Tree.clearOf_mapColumns stops lineStart)

theorem symbols (h : t.Alike u) : Tree.symbols t = Tree.symbols u :=
  h.congr (symbols_mapColumns lineStart)

theorem endsOpen (h : t.Alike u) : t.endsOpen = u.endsOpen := by
  refine h.congr fun t => ?_
  rw [Tree.endsOpen, Tree.endsOpen, getLast?_mapColumns]
  cases t.getLast? with
  | none => rfl
  | some n => exact Node.isOpen_mapColumn lineStart n

theorem endsLine (h : t.Alike u) : t.endsLine = u.endsLine := by
  refine h.congr fun t => ?_
  rw [Tree.endsLine, Tree.endsLine, getLast?_mapColumns]
  cases t.getLast? with
  | none => rfl
  | some n => cases n <;> rfl

theorem keepsApart (h : t.Alike u) (text after : String) :
    Script.keepsApart text t after = Script.keepsApart text u after := by
  rw [Script.keepsApart, Script.keepsApart, h.endsOpen, h.endsLine]

theorem joined {t' u' : Tree} (h : t.Alike u) (h' : t'.Alike u') :
    (t.joined t').Alike (u.joined u') := by
  rw [Alike, mapColumns_joined, mapColumns_joined, h, h']

end Tree.Alike

/- Symbols. -/

namespace Tree

theorem symbols_cons (n : Node) (t : Tree) : symbols (cons n t) = n.symbols ++ symbols t := by
  unfold cons
  split <;> rfl

theorem symbols_joined (t u : Tree) : symbols (t.joined u) = symbols t ++ symbols u := by
  induction t with
  | nil => rfl
  | cons n t ih =>
    show symbols (cons n (joined t u)) = _
    rw [symbols_cons, ih, symbols, List.append_assoc]

theorem symbols_mapLast {f : Node → Node} (same : ∀ n, (f n).symbols = n.symbols) (t : Tree) :
    symbols (mapLast f t) = symbols t := by
  induction t with
  | nil => rfl
  | cons n t ih =>
    cases t with
    | nil => simp only [mapLast, symbols, same]
    | cons m t =>
      rw [mapLast, symbols, symbols, ih]
      exact fun none => by cases none

theorem symbols_trim (t : Tree) : symbols t.trim = symbols t := by
  have start : ∀ n : Node, (trimNodeStart n).symbols = n.symbols := by
    intro n
    cases n <;> rfl
  have last : ∀ n : Node, (trimNodeEnd n).symbols = n.symbols := by
    intro n
    cases n <;> rfl
  have kept : ∀ u : Tree, symbols (u.filter (!isBlankText ·)) = symbols u := by
    intro u
    induction u with
    | nil => rfl
    | cons n u ih =>
      by_cases blank : isBlankText n = true
      · have none : n.symbols = [] := by
          cases n with
          | text s => rfl
          | _ => cases blank
        rw [List.filter_cons_of_neg (by simp [blank]), ih, symbols, none, List.nil_append]
      · rw [List.filter_cons_of_pos (by simp [blank]), symbols, ih, symbols]
  unfold trim
  rw [kept, symbols_mapLast last]
  cases t with
  | nil => rfl
  | cons n t => rw [symbols, symbols, start]

end Tree

mutual

theorem Piece.left_sublist : ∀ piece : Piece, piece.left.Sublist (Tree.symbols piece.tree)
  | .text _ => List.nil_sublist _
  | .symbol _ _ => List.Sublist.refl _
  | .assign name value T => by
    have inside := leftIn_sublist value
    rw [← Tree.symbols_trim] at inside
    simpa [Piece.left, Piece.tree, Tree.symbols, Node.symbols] using inside
  | .choice body T => by
    have inside := leftIn_sublist body
    rw [← Tree.symbols_trim] at inside
    simpa [Piece.left, Piece.tree, Tree.symbols, Node.symbols, Alternative.symbols] using inside

theorem leftIn_sublist : ∀ pieces : List Piece,
    (leftIn pieces).Sublist (Tree.symbols (trees pieces))
  | [] => List.nil_sublist _
  | piece :: pieces => by
    rw [leftIn, trees, Tree.symbols_joined]
    exact (Piece.left_sublist piece).append (leftIn_sublist pieces)

end

/- Reading. -/

/- A symbol. -/

/-- A text that neither goes on with the symbol before it nor makes it a target. -/
structure SymbolEnds (after : List Char) : Prop where
  ends : endsItem after = true
  unassigned : ∀ rest, after.dropWhile Cursor.isSpace = '=' :: rest → rest.head? = some '='

theorem SymbolEnds.nil : SymbolEnds [] := ⟨rfl, nofun⟩

section

variable {name : String} {T : Chain} {after : List Char}

theorem not_assigned (h : SymbolEnds after) {mid : Cursor}
    (left : mid.rest = T.text.toList ++ after) : mid.skipSpaces.assigned? = none := by
  have rest : mid.skipSpaces.rest = (T.text.toList ++ after).dropWhile Cursor.isSpace := by
    rw [← left]
    rfl
  rw [Cursor.assigned?]
  cases found : mid.skipSpaces.after? '=' with
  | none => rfl
  | some next =>
    have equals := Cursor.rest_of_after? found
    rw [rest] at equals
    cases T with
    | nil =>
      rw [Option.bind_some, if_pos (h.unassigned _ equals)]
    | cons s T =>
      rw [Chain.text_cons, Segment.text, String.toList_append, String.toList_append] at equals
      cases equals

theorem symbol_of_text (h : SymbolEnds after) (ident : isName name = true) (named : T.isNamed = true)
    {c : Cursor} (text : c.rest = name.toList ++ (T.text.toList ++ after)) :
    target? c = none ∧ ∃ mid, c.name? = some (name, mid) ∧ (chain mid).value = T ∧
      (chain mid).next.rest = after := by
  obtain ⟨mid, read, left⟩ := Cursor.exists_name? ident text fun x head =>
    (Chain.head?_text_append h.ends x head).1
  refine ⟨?_, mid, read, chain_of_text named left h.ends⟩
  simp only [target?, read, Option.bind_some, not_assigned h left, Option.map_none]

theorem ofText?_unresolved (ident : isName name = true) (named : T.isNamed = true) :
    Tree.ofText? (Pass.unresolved name T) = .ok [.symbol name T] := by
  have text : (Cursor.mk ['$'] (name.toList ++ T.text.toList)).rest =
      name.toList ++ (T.text.toList ++ []) := by rw [List.append_nil]
  obtain ⟨target, mid, read, chained, done⟩ := symbol_of_text .nil ident named text
  have node : ReadsNode [] '$' ⟨['$'], _⟩ _ _ := .symbol target read
  rw [chained] at node
  exact ofText?_of_node (by simp [Pass.unresolved]) node done

theorem isSteady_of_sight? {text : List Char} {v : Sight} {next next' : Cursor}
    (alone : sight? '$' ⟨[], text⟩ = some (v, next)) (ended : next.rest = [])
    (longer : sight? '$' ⟨[], text ++ after⟩ = some (v, next')) (ended' : next'.rest = after)
    (later : isSteady after false text = true) : isSteady after false ('$' :: text) = true := by
  have same : sight? '$' ⟨[], text ++ after⟩ = (sight? '$' ⟨[], text⟩).map fun r =>
      (r.1, ⟨r.2.before, r.2.rest ++ after⟩) := by
    obtain ⟨taken, whole, anywhere⟩ := IsScan.sight? '$' _ _ _ _ alone
    obtain ⟨taken', whole', anywhere'⟩ := IsScan.sight? '$' _ _ _ _ longer
    rw [ended, List.append_nil] at whole
    rw [ended'] at whole'
    rw [anywhere, anywhere', ended, ended', ← whole, ← List.append_cancel_right whole']
    rfl
  rw [isSteady, decide_eq_true same, Bool.or_true]
  exact later

theorem isSteady_append_of_names {text : List Char} (rest : List Char)
    (names : ∀ c ∈ text, Cursor.isNameChar c = true ∨ c = '.') :
    isSteady after false (text ++ rest) = isSteady after false rest := by
  induction text with
  | nil => rfl
  | cons c text ih =>
    obtain ⟨first, others⟩ := List.forall_mem_cons.mp names
    have none : sight? c = fun _ => none := by
      unfold sight?
      split
      all_goals first | rfl | exact absurd first (by decide)
    have shut : c ≠ '(' := by
      rintro rfl
      exact absurd first (by decide)
    rw [List.cons_append, isSteady, none, ← ih others]
    simp [shut]

theorem isSteady_chain (named : T.isNamed = true) : isSteady after false T.text.toList = true := by
  induction T with
  | nil => rfl
  | cons s T ih =>
    rw [Chain.isNamed, List.all_cons, Bool.and_eq_true] at named
    obtain ⟨name, call⟩ := s
    have dotted : ∀ c ∈ '.' :: name.toList, Cursor.isNameChar c = true ∨ c = '.' :=
      List.forall_mem_cons.mpr
        ⟨.inr rfl, fun c mem => .inl (isNameChar_of_isName named.1 c mem)⟩
    have later := ih named.2
    cases call with
    | false =>
      have text : (Chain.text (⟨name, false⟩ :: T)).toList =
          ('.' :: name.toList) ++ (Chain.text T).toList := by
        simp [Chain.text_cons, Segment.text]
      rw [text, isSteady_append_of_names _ dotted, later]
    | true =>
      have text : (Chain.text (⟨name, true⟩ :: T)).toList =
          ('.' :: name.toList) ++ '(' :: ')' :: (Chain.text T).toList := by
        simp [Chain.text_cons, Segment.text]
      have untargeted : ∀ rest, sight? '(' ⟨[], ')' :: rest⟩ = none := by
        intro rest
        simp [sight?, inlineTarget?, Cursor.skipSpaces, Cursor.span, Cursor.after?, Cursor.isSpace]
      rw [text, isSteady_append_of_names _ dotted]
      simp [isSteady, untargeted, later]

theorem keepsApart_unresolved {after : String} (h : SymbolEnds after.toList)
    (ident : isName name = true) (named : T.isNamed = true)
    (start : opensStatement (Cursor.start after) = false) :
    keepsApart (Pass.unresolved name T) [.symbol name T] after = true := by
  have seen : ∀ rest, SymbolEnds rest → ∃ next,
      sight? '$' ⟨[], name.toList ++ (T.text.toList ++ rest)⟩ = some (.symbol name T, next) ∧
        next.rest = rest := by
    intro rest ends
    obtain ⟨target, mid, read, chained, done⟩ :=
      symbol_of_text ends ident named (c := ⟨[], name.toList ++ (T.text.toList ++ rest)⟩) rfl
    refine ⟨_, ?_, done⟩
    simp only [sight?, target, symbol?, read, Option.map_none, Option.map_some, Option.none_or,
      chained]
  obtain ⟨next, alone, ended⟩ := seen [] .nil
  obtain ⟨next', longer, ended'⟩ := seen after.toList h
  rw [List.append_nil] at alone
  rw [← List.append_assoc] at longer
  have later : isSteady after.toList false (name.toList ++ T.text.toList) = true := by
    rw [isSteady_append_of_names _ fun c mem => .inl (isNameChar_of_isName ident c mem)]
    exact isSteady_chain named
  have steady := isSteady_of_sight? alone ended longer ended' later
  have text : (Pass.unresolved name T).toList = '$' :: (name.toList ++ T.text.toList) := by
    simp [Pass.unresolved]
  rw [keepsApart, text, steady, start]
  simp [Tree.endsOpen, Node.isOpen]

end

mutual

theorem Piece.exists_ofText? : ∀ {piece : Piece}, piece.isMade = true → piece.isApart = true →
    ∃ t, Tree.ofText? piece.print = .ok t ∧ piece.tree.Alike t
  | .text s, _, apart => by
    rw [Piece.isApart] at apart
    cases read : Tree.ofText? s with
    | error e =>
      rw [read] at apart
      cases apart
    | ok t => exact ⟨t, by rw [Piece.print_text, read], by rw [Piece.tree, read]; rfl⟩
  | .symbol name T, made, _ => by
    rw [Piece.isMade, Bool.and_eq_true] at made
    exact ⟨_, by rw [Piece.print]; exact ofText?_unresolved made.1 made.2, rfl⟩
  | .assign name value T, made, apart => by
    simp only [Piece.isMade, Bool.and_eq_true] at made
    simp only [Piece.isApart, Bool.and_eq_true, Bool.not_eq_true', decide_eq_true_eq] at apart
    obtain ⟨⟨⟨inside, single⟩, start⟩, clear⟩ := apart
    obtain ⟨t, read, alike⟩ := exists_ofText?_printAll made.2 inside
    rw [alike.clearOf] at clear
    obtain ⟨value', whole, same⟩ :=
      exists_ofText?_deferred made.1.1.1 made.1.1.2 made.1.2 read single start clear
    refine ⟨_, by rw [Piece.print, whole], ?_⟩
    have values : (trees value).trim.Alike value' := alike.trim.trans same.symm
    exact congrArg (fun v => [Node.assign name v (lineStart 1) true T]) values
  | .choice body T, made, apart => by
    simp only [Piece.isMade, Bool.and_eq_true] at made
    simp only [Piece.isApart, Bool.and_eq_true, Bool.not_eq_true', Option.isNone_iff_eq_none]
      at apart
    obtain ⟨⟨⟨⟨inside, target⟩, start⟩, clear⟩, weight⟩ := apart
    obtain ⟨t, read, alike⟩ := exists_ofText?_printAll made.2 inside
    rw [alike.clearOf] at clear
    rw [← alike.weight?] at weight
    obtain ⟨tree, whole, same⟩ :=
      exists_ofText?_choice made.1.1 made.1.2 read target start clear weight
    refine ⟨_, by rw [Piece.print, whole], ?_⟩
    have bodies : (trees body).trim.Alike tree := alike.trim.trans same.symm
    exact congrArg (fun v => [Node.choice [.mk v none] T]) bodies

theorem exists_ofText?_printAll : ∀ {pieces : List Piece}, areMade pieces = true →
    areApart pieces = true → ∃ t, Tree.ofText? (printAll pieces) = .ok t ∧ (trees pieces).Alike t
  | [], _, _ => ⟨[], (ofText?_eq_ok_iff "" []).mpr ⟨_, .done⟩, rfl⟩
  | piece :: pieces, made, apart => by
    rw [areMade, Bool.and_eq_true] at made
    rw [areApart, Bool.and_eq_true, Bool.and_eq_true] at apart
    -- the border is checked against the tree of the piece, which is alike to the one that is read
    obtain ⟨t, first, alike⟩ := Piece.exists_ofText? made.1 apart.1.1
    obtain ⟨u, second, same⟩ := exists_ofText?_printAll made.2 apart.1.2
    rw [alike.keepsApart] at apart
    obtain ⟨v, whole, both⟩ := exists_ofText?_append first second apart.2
    exact ⟨v, by rw [printAll, whole], (alike.joined same).trans both⟩

end

/-- A symbol that is left asks for nothing more if what follows neither goes on with it nor makes it
a target, and does not begin with a statement. -/
theorem areApart_symbol {name : String} {T : Chain} {pieces : List Piece}
    (made : (Piece.symbol name T).isMade = true) (ends : SymbolEnds (printAll pieces).toList)
    (start : opensStatement (Cursor.start (printAll pieces)) = false) :
    areApart (.symbol name T :: pieces) = areApart pieces := by
  rw [Piece.isMade, Bool.and_eq_true] at made
  have apart := keepsApart_unresolved ends made.1 made.2 start
  rw [areApart, Piece.isApart, Piece.print, Piece.tree, apart, Bool.true_and, Bool.and_true]

theorem isMade_of_mem {pieces : List Piece} (made : areMade pieces = true) {piece : Piece}
    (mem : piece ∈ pieces) : piece.isMade = true := by
  induction pieces with
  | nil => cases mem
  | cons first pieces ih =>
    rw [areMade, Bool.and_eq_true] at made
    rcases List.mem_cons.mp mem with rfl | mem
    · exact made.1
    · exact ih made.2 mem

/-- The text of a pass is that of its pieces. If they keep apart, the next pass reads their trees one
after the other, and so each symbol that was left as it is, with its transforms. A symbol keeps apart
already if what follows does not go on with it. -/
theorem output_reads_back (settings : Settings) (number : Nat) (s : State) {source output : String}
    {tree : Tree} (read : Tree.ofText? source = .ok tree)
    (returned : (runPass settings number tree s).1 = .ok output) :
    let p : Pass := { number, state := s }
    let pieces := trimmedPieces (residue settings tree p)
    output = printAll pieces ∧ leftIn pieces = leftBy settings tree p ∧
      (∀ before name T after, pieces = before ++ .symbol name T :: after →
        SymbolEnds (printAll after).toList →
        opensStatement (Cursor.start (printAll after)) = false →
        areApart (.symbol name T :: after) = areApart after) ∧
      (areApart pieces = true →
        ∃ next, Tree.ofText? output = .ok next ∧ (trees pieces).Alike next ∧
          (leftBy settings tree p).Sublist (Tree.symbols next) ∧
          ∀ settings p, visitTree settings next p = visitTree settings (trees pieces) p) := by
  intro p pieces
  obtain ⟨text, shown, same⟩ : ∃ text, (visitTree settings tree p).1 = .ok text ∧
      Text.trimmed text = output := by
    cases shown : (visitTree settings tree p).1 with
    | error e => simp [runPass, p, shown, Except.map] at returned
    | ok text =>
      simp only [runPass, p, shown, Except.map, Except.ok.injEq] at returned
      exact ⟨text, rfl, returned⟩
  have written := (writes_residue settings p text (isNamed_of_ofText? read) shown).trimmed
  rw [same] at written
  refine ⟨written.print.symm, written.left, ?_, fun apart => ?_⟩
  · intro before name T after split ends start
    refine areApart_symbol (isMade_of_mem written.made ?_) ends start
    change _ ∈ pieces
    rw [split]
    exact List.mem_append_right before List.mem_cons_self
  · obtain ⟨next, again, alike⟩ := exists_ofText?_printAll written.made apart
    rw [written.print] at again
    refine ⟨next, again, alike, ?_, fun settings p => (visitTree_of_alike settings alike p).symm⟩
    rw [← written.left, ← alike.symbols]
    exact leftIn_sublist pieces

theorem output_reads_back_with_line_end :
    let source := "Hi (there) $n.uc(),\n$who ($a=$b c)."
    let tree : Tree := [.text "Hi ", .choice [.mk [.text "there"] none] [], .text " ",
      .symbol "n" [⟨"uc", true⟩], .text ",", .newline, .symbol "who" [], .text " ",
      .assign "a" [.symbol "b" [], .text " c"] 6 true [], .text "."]
    let s : State := { context := [("who", .text "Ann")], run := ⟨⟨[], 0⟩, []⟩ }
    let pieces := trimmedPieces (residue {} tree { number := 0, state := s })
    let output := "Hi there $n.uc(), Ann ($a=$b c)."
    (Tree.ofText? source = .ok tree ∧ (runPass {} 0 tree s).1 = .ok output ∧
        areApart pieces = true) ∧
      ∃ next, Tree.ofText? output = .ok next ∧ (trees pieces).Alike next ∧
        [("n", [⟨"uc", true⟩]), ("b", [])].Sublist (Tree.symbols next) ∧
        ∀ settings p, visitTree settings next p = visitTree settings (trees pieces) p := by
  intro source tree s pieces output
  have read : Tree.ofText? source = .ok tree := by
    show Tree.ofText? "Hi (there) $n.uc(),\n$who ($a=$b c)." = .ok tree
    with_unfolding_all rfl
  have apart : areApart pieces = true := by decide +kernel
  have returned : (runPass {} 0 tree s).1 = .ok output := by decide +kernel
  have left : leftBy {} tree { number := 0, state := s } = [("n", [⟨"uc", true⟩]), ("b", [])] := by
    decide +kernel
  have back := (output_reads_back {} 0 s read returned).2.2.2 apart
  rw [left] at back
  exact ⟨⟨read, returned, apart⟩, back⟩

/-- A symbol without a value takes in the text of a choice after it, and a line end that has become
a blank makes an assignment of a symbol and what follows. -/
theorem not_all_outputs_read_back :
    (¬ ∀ (settings : Settings) (number : Nat) (s : State) (source output : String)
        (tree next : Tree), Tree.ofText? source = .ok tree →
      (runPass settings number tree s).1 = .ok output → Tree.ofText? output = .ok next →
      ∀ symbol ∈ leftBy settings tree { number, state := s },
        s.context.get? symbol.1 = none → s.context.get? (Pass.sourceName symbol.1) = none →
        symbol ∈ Tree.symbols next) ∧
    let s : State := { run := ⟨⟨[], 0⟩, []⟩ }
    ∃ tree next : Tree, Tree.ofText? "$x\n= y" = .ok tree ∧
      tree = [.symbol "x" [], .newline, .text "= y"] ∧ (runPass {} 0 tree s).1 = .ok "$x = y" ∧
      Tree.ofText? "$x = y" = .ok next ∧ next = [.assign "x" [.text "y"] 0 false []] := by
  constructor
  · intro all
    let s : State := { run := ⟨⟨[], 0⟩, []⟩ }
    let tree : Tree := [.symbol "n" [], .choice [.mk [.text "x"] none] []]
    have read : Tree.ofText? "$n(x)" = .ok tree := by with_unfolding_all rfl
    have output : (runPass {} 0 tree s).1 = .ok "$nx" := by decide +kernel
    have again : Tree.ofText? "$nx" = .ok [.symbol "nx" []] := by with_unfolding_all rfl
    have left : leftBy {} tree { number := 0, state := s } = [("n", [])] := by decide +kernel
    have kept := all {} 0 s "$n(x)" "$nx" tree [.symbol "nx" []] read output again ("n", [])
      (by rw [left]; exact List.mem_singleton_self _) rfl rfl
    revert kept
    decide +kernel
  · have read : Tree.ofText? "$x\n= y" = .ok [.symbol "x" [], .newline, .text "= y"] := by
      with_unfolding_all rfl
    have again : Tree.ofText? "$x = y" = .ok [.assign "x" [.text "y"] 0 false []] := by
      with_unfolding_all rfl
    exact ⟨_, _, read, rfl, by decide +kernel, again, rfl⟩

end TextGen.Script
