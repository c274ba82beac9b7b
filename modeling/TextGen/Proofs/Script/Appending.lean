import Mathlib
import TextGen.Proofs.Script.Placement
import TextGen.Proofs.Script.Scanning

/-! One text after another.
Two texts put together are read as one tree after the other, if nothing of the second is seen behind
the signs of the first, no node at the end of the first goes on with what follows, and no statement
at the beginning of the second loses its place at the start of a line. -/
namespace TextGen.Script

/- Trees one after the other. -/

namespace Node

def isText : Node → Bool
  | text _ => true
  | _ => false

/-- Whether a node at the end of a text takes what follows as its own: the value of an assignment on
a line, a source, or what a guard stands before. -/
def isOpen : Node → Bool
  | assign _ _ _ inParens _ => !inParens
  | dynamic _ _ => true
  | guarded _ [] => true
  | guarded _ (n :: _) => n.isText || n.isOpen
  | _ => false

end Node

namespace Tree

/-- The nodes of two trees. Texts that meet become one. -/
def joined (t u : Tree) : Tree := t.foldr cons u

def endsOpen (t : Tree) : Bool := t.getLast?.any Node.isOpen

def endsLine (t : Tree) : Bool :=
  match t.getLast? with
  | none => true
  | some .newline => true
  | _ => false

theorem joined_cons (n : Node) (t u : Tree) : (cons n t).joined u = cons n (t.joined u) := by
  cases n with
  | text s =>
    cases t with
    | nil => rfl
    | cons m t =>
      cases m with
      | text v => exact cons_text_append s v _
      | _ => rfl
  | _ => rfl

theorem mapColumns_joined (f : Nat → Nat) (t u : Tree) :
    mapColumns f (t.joined u) = (mapColumns f t).joined (mapColumns f u) := by
  induction t with
  | nil => rfl
  | cons n t ih =>
    show mapColumns f (cons n (joined t u)) = cons (n.mapColumn f) ((mapColumns f t).joined _)
    rw [mapColumns_cons, ih]

theorem getLast?_cons (n : Node) {t : Tree} (more : t ≠ []) :
    (cons n t).getLast? = t.getLast? ∨
      ∃ s v, (cons n t).getLast? = some (.text s) ∧ t.getLast? = some (.text v) := by
  unfold cons
  split
  · rename_i s v rest
    cases rest with
    | nil => exact .inr ⟨_, _, rfl, rfl⟩
    | cons m rest => exact .inl rfl
  · cases t with
    | nil => exact absurd rfl more
    | cons m t => exact .inl rfl

theorem endsOpen_cons (n : Node) {t : Tree} (more : t ≠ []) : (cons n t).endsOpen = t.endsOpen := by
  rw [endsOpen, endsOpen]
  rcases getLast?_cons n more with same | ⟨s, v, first, second⟩
  · rw [same]
  · rw [first, second]
    rfl

end Tree

variable {w : List Char} {within : Bool} {c c' next : Cursor}

namespace Longer

theorem span_of_stopped (h : Longer w c c') {test : Char → Bool}
    (stopped : (c.span test).2.rest = [] → w = []) :
    (c'.span test).1 = (c.span test).1 ∧ Longer w (c.span test).2 (c'.span test).2 :=
  h.span fun ended x head => by
    rw [stopped ended] at head
    cases head

theorem skipSpaces (h : Longer w c c') (stopped : c.skipSpaces.rest = [] → w = []) :
    Longer w c.skipSpaces c'.skipSpaces := (h.span_of_stopped stopped).2

theorem sight? (h : Longer w c c') {sign : Char}
    (steady : isSteady w within (sign :: c.rest) = true) (looked : sign = ')' → within = true) :
    AlikeReading (Longer w) (Script.sight? sign c) (Script.sight? sign c') := by
  obtain ⟨b, rest⟩ := c
  obtain ⟨b', rest'⟩ := c'
  obtain rfl : rest' = rest ++ w := h.rest
  have same := sight?_of_isSteady steady looked
  cases found : Script.sight? sign ⟨b, rest⟩ with
  | none =>
    rw [(IsScan.sight? sign).eq_none found] at same
    rw [(IsScan.sight? sign).eq_none same]
    exact .none
  | some r =>
    obtain ⟨v, next⟩ := r
    obtain ⟨taken, _, anywhere⟩ := IsScan.sight? sign b rest v next found
    have here := anywhere b
    rw [found, Option.some.injEq, Prod.mk.injEq] at here
    rw [anywhere [], Option.map_some] at same
    obtain ⟨taken', _, anywhere'⟩ := IsScan.sight? sign [] (rest ++ w) _ _ same
    have equal := (anywhere' []).symm.trans same
    simp only [Option.some.injEq, Prod.mk.injEq, Cursor.mk.injEq, List.append_nil,
      List.reverse_inj] at equal
    rw [anywhere' b', here.2, equal.2.1]
    exact .some ⟨rfl, rfl, column_append_eq_zero_iff taken.reverse _ _ h.column⟩

theorem of_map {α β : Type} {f : α → β} (injective : Function.Injective f)
    {a a' : Option (α × Cursor)}
    (h : AlikeReading (Longer w) (a.map fun r => (f r.1, r.2)) (a'.map fun r => (f r.1, r.2))) :
    AlikeReading (Longer w) a a' := by
  cases a with
  | none =>
    rw [Option.map_eq_none_iff.mp (eq_none_of_rel h rfl)]
    exact .none
  | some r =>
    obtain ⟨_, found, value, longer⟩ := exists_of_rel h rfl
    obtain ⟨r', here, rfl⟩ := Option.map_eq_some_iff.mp found
    rw [here]
    exact .some ⟨injective value, longer⟩

theorem dollar (h : Longer w c c') (steady : isSteady w within ('$' :: c.rest) = true) :
    AlikeReading (Longer w) (target? c) (target? c') ∧
      (target? c = none → AlikeReading (Longer w) (symbol? c) (symbol? c')) := by
  have seen := h.sight? steady nofun
  simp only [Script.sight?] at seen
  cases found : target? c with
  | none =>
    cases found' : target? c' with
    | none =>
      rw [found, found'] at seen
      simp only [Option.map_none, Option.none_or] at seen
      have injective : Function.Injective fun r : String × Chain => Sight.symbol r.1 r.2 := by
        rintro ⟨name, T⟩ ⟨name', T'⟩ same
        injection same with first second
        exact Prod.ext first second
      exact ⟨.none, fun _ => of_map injective seen⟩
    | some r' =>
      rw [found, found'] at seen
      simp only [Option.map_none, Option.none_or, Option.map_some, Option.some_or] at seen
      cases named : symbol? c with
      | none => rw [named] at seen; cases seen
      | some r =>
        rw [named] at seen
        cases seen with
        | some related => cases related.1
  | some r =>
    cases found' : target? c' with
    | none =>
      rw [found, found'] at seen
      obtain ⟨_, here, value, _⟩ := exists_of_rel seen rfl
      obtain ⟨_, _, rfl⟩ := Option.map_eq_some_iff.mp here
      cases value
    | some r' =>
      rw [found, found'] at seen
      have same : AlikeReading (Longer w) (some r) (some r') :=
        of_map (fun _ _ => Sight.target.inj) seen
      exact ⟨same, nofun⟩

theorem target? (h : Longer w c c') (steady : isSteady w within ('&' :: c.rest) = true) :
    AlikeReading (Longer w) (Script.target? c) (Script.target? c') :=
  of_map (fun _ _ => Sight.target.inj) (h.sight? steady nofun)

theorem inlineTarget? (h : Longer w c c') (steady : isSteady w within ('(' :: c.rest) = true) :
    AlikeReading (Longer w) (Script.inlineTarget? c) (Script.inlineTarget? c') :=
  of_map (fun _ _ => Sight.target.inj) (h.sight? steady nofun)

theorem chain (h : Longer w c c') (steady : isSteady w true (')' :: c.rest) = true) :
    ChainIn w c c' := by
  obtain ⟨_, found, value, longer⟩ := exists_of_rel (h.sight? steady fun _ => rfl) rfl
  cases found
  exact ⟨(Sight.transforms.inj value).symm, longer⟩

theorem conditions? (h : Longer w c c') (steady : isSteady w within ('\x7b' :: c.rest) = true) :
    AlikeReading (Longer w) (Script.conditions? c) (Script.conditions? c') :=
  of_map (fun _ _ => Sight.conditions.inj) (h.sight? steady nofun)

theorem exists_conditions (h : Longer w c c') (steady : isSteady w within ('\x7b' :: c.rest) = true)
    {r : Parsed (List Condition) c.rest.length} (found : guard c = .conditions r) :
    ∃ r', guard c' = .conditions r' ∧ r'.value = r.value ∧ Longer w r.next r'.next := by
  obtain ⟨next', here, longer⟩ :=
    (h.conditions? steady).exists_some (conditions?_eq_some_iff.mpr ⟨r, found, rfl, rfl⟩)
  obtain ⟨r', found', value, rfl⟩ := conditions?_eq_some_iff.mp here
  exact ⟨r', found', value, longer⟩

end Longer

theorem head?_of_after?_eq_none {sign : Char} (none : c.after? sign = none) :
    c.rest.head? ≠ some sign := by
  intro head
  obtain ⟨rest, text⟩ := List.head?_eq_some_iff.mp head
  obtain ⟨next, found, _⟩ := Cursor.exists_after? text
  cases none.symm.trans found

/- Reading on. -/

variable {stops : List Char} {t : Tree}

theorem next_of_reads_nil {b : List Char} (h : Reads stops ⟨b, []⟩ t next) :
    t = [] ∧ next = ⟨b, []⟩ := by
  cases h
  exact ⟨rfl, rfl⟩

theorem rest_eq_nil_of_reads (h : Reads stops c t next) (ended : c.rest = []) : next.rest = [] := by
  have suffix := suffix_of_reads h
  rwa [ended, List.suffix_nil] at suffix

theorem joined_nil_of_reads : ∀ {c next : Cursor} {t : Tree}, Reads stops c t next →
    t.joined [] = t
  | _, _, _, .done => rfl
  | _, _, _, .stop _ => rfl
  | _, _, _, .cons _ _ tail => by rw [Tree.joined_cons, joined_nil_of_reads tail]

theorem reads_plain_run {run rest b : List Char} {u : Tree} {last : Cursor} (some_ : run ≠ [])
    (all : ∀ x ∈ run, isPlain stops x = true) (h : Reads stops ⟨run.reverse ++ b, rest⟩ u last) :
    Reads stops ⟨b, run ++ rest⟩ (Tree.cons (.text (String.ofList run)) u) last := by
  induction run generalizing b with
  | nil => exact absurd rfl some_
  | cons x run ih =>
    obtain ⟨first, others⟩ := List.forall_mem_cons.mp all
    rw [List.reverse_cons, List.append_assoc] at h
    refine (reads_plain_iff first).mpr ?_
    cases run with
    | nil => exact ⟨u, h, rfl⟩
    | cons y run =>
      refine ⟨_, ih (List.cons_ne_nil y run) others h, ?_⟩
      rw [← Tree.cons_text_append, ← String.ofList_cons]

/-- A tree that is read up to a place in a text is read up to this place in the longer text, and
then reading goes on with what follows. -/
def ReadsOn (w stops : List Char) (c' : Cursor) (t : Tree) (next : Cursor) : Prop :=
  ∃ next', Longer w next next' ∧
    ∀ u last, Reads stops next' u last → ∃ v, Reads stops c' v last ∧ (t.joined u).Alike v

theorem ReadsOn.treeIn (h : ReadsOn w stops c' t next) (read : Reads stops c t next)
    (more : next.rest = [] → w = []) : TreeIn w stops c' t next := by
  obtain ⟨next', longer, goesOn⟩ := h
  have ends : Reads stops next' [] next' := by
    obtain ⟨b', rest'⟩ := next'
    obtain rfl : rest' = next.rest ++ w := longer.rest
    have stop := ends_of_reads read
    cases rest : next.rest with
    | nil =>
      rw [more rest]
      exact .done
    | cons x rest' =>
      rw [rest] at stop
      exact .stop (stop x rfl)
  obtain ⟨v, read', alike⟩ := goesOn [] next' ends
  rw [joined_nil_of_reads read] at alike
  exact ⟨v, next', read', longer, alike⟩

theorem ReadsOn.nil (longer : Longer w c c') : ReadsOn w stops c' [] c :=
  ⟨c', longer, fun u _ read => ⟨u, read, rfl⟩⟩

theorem ReadsOn.cons {b' rest : List Char} {first : Char} {n : Node} {mid : Cursor}
    (inside : first ∉ stops) (head : NodeIn w stops first ⟨first :: b', rest⟩ n mid)
    (tail : ∀ mid', Longer w mid mid' → ReadsOn w stops mid' t next) :
    ReadsOn w stops ⟨b', first :: rest⟩ (Tree.cons n t) next := by
  obtain ⟨n', mid', node, past, same⟩ := head
  obtain ⟨next', ended, goesOn⟩ := tail mid' past
  refine ⟨next', ended, fun u last read => ?_⟩
  obtain ⟨v, more, alike⟩ := goesOn u last read
  refine ⟨Tree.cons n' v, .cons inside node more, ?_⟩
  rw [Tree.joined_cons, Tree.Alike, Tree.mapColumns_cons, Tree.mapColumns_cons, same, alike]

/-- A run of plain text may go on in what follows, so its node is not the same there: it is read one
character after the other. -/
theorem ReadsOn.plain {b b' rest : List Char} {first : Char} (passes : isPlain stops first = true)
    (tail : ∀ mid', Longer w (plain stops first ⟨first :: b, rest⟩).next mid' →
      ReadsOn w stops mid' t next) :
    ReadsOn w stops ⟨b', first :: (rest ++ w)⟩
      (Tree.cons (Script.plain stops first ⟨first :: b, rest⟩).value t) next := by
  have run : ∀ x ∈ first :: rest.takeWhile (isPlain stops), isPlain stops x = true :=
    List.forall_mem_cons.mpr ⟨passes, fun x mem => List.mem_takeWhile_imp mem⟩
  have step : (Cursor.mk (first :: b) rest).column = 0 ↔ (Cursor.mk (first :: b') rest).column = 0 :=
    column_cons_eq_zero_iff first _ _ _ _
  obtain ⟨next', ended, goesOn⟩ := tail ⟨(rest.takeWhile (isPlain stops)).reverse ++ first :: b',
    rest.dropWhile (isPlain stops) ++ w⟩ ⟨rfl, column_append_eq_zero_iff _ _ _ step⟩
  refine ⟨next', ended, fun u last read => ?_⟩
  obtain ⟨v, more, alike⟩ := goesOn u last read
  have whole : first :: (rest ++ w) =
      (first :: rest.takeWhile (isPlain stops)) ++ (rest.dropWhile (isPlain stops) ++ w) := by
    rw [List.cons_append, ← List.append_assoc, List.takeWhile_append_dropWhile]
  refine ⟨Tree.cons (Script.plain stops first ⟨first :: b, rest⟩).value v, ?_, ?_⟩
  · rw [whole]
    refine reads_plain_run (List.cons_ne_nil _ _) run ?_
    rw [List.reverse_cons, List.append_assoc]
    exact more
  · rw [Tree.joined_cons, Tree.Alike, Tree.mapColumns_cons, Tree.mapColumns_cons, alike]

/-- A tree that is read on in every longer text in which what is seen behind its signs is steady. -/
def TreeOn (w stops : List Char) (c : Cursor) (t : Tree) (next : Cursor) : Prop :=
  ∀ ⦃within : Bool⦄ ⦃c' : Cursor⦄, Longer w c c' → isSteady w within c.rest = true →
    (next.rest = [] → w = [] ∨ t.endsOpen = false) → ReadsOn w stops c' t next

def NodeOn (w stops : List Char) (first : Char) (c : Cursor) (n : Node) (next : Cursor) : Prop :=
  ∀ ⦃within : Bool⦄ ⦃c' : Cursor⦄, Longer w c c' →
    ((target? c).isSome → first = '$' ∨ first = '&' ∧ '\n' ∈ c.rest →
      (signColumn c = 0 ↔ signColumn c' = 0)) →
    isSteady w within (first :: c.rest) = true →
    (next.rest = [] → w = [] ∨ n.isOpen = false ∧ first ∈ signs) → NodeIn w stops first c' n next

def AlternativesOn (w : List Char) (c : Cursor) (found : List Alternative) (closed : Cursor) : Prop :=
  ∀ ⦃c' : Cursor⦄, Longer w c c' → isSteady w true c.rest = true → AlternativesIn w c' found closed

theorem TreeOn.cons {b rest : List Char} {first : Char} {n : Node} {mid : Cursor}
    (inside : first ∉ stops) (head : ReadsNode stops first ⟨first :: b, rest⟩ n mid)
    (tail : Reads stops mid t next) (before : NodeOn w stops first ⟨first :: b, rest⟩ n mid)
    (after : TreeOn w stops mid t next) :
    TreeOn w stops ⟨b, first :: rest⟩ (Tree.cons n t) next := by
  rintro within ⟨b', rest'⟩ longer steady closed
  obtain ⟨rfl, step, start⟩ := longer.step rfl
  have steady' : isSteady w within mid.rest = true :=
    isSteady_of_suffix (isSteady_tail steady) (suffix_of_readsNode head)
  have closedTail : next.rest = [] → w = [] ∨ t.endsOpen = false := by
    intro ended
    by_cases more : t = []
    · exact .inr (by rw [more]; rfl)
    · rw [← Tree.endsOpen_cons n more]
      exact closed ended
  by_cases sign : first ∈ signs
  · refine .cons inside (before step (fun _ _ => start) steady fun ended => ?_)
      fun _ past => after past steady' closedTail
    obtain ⟨mb, mrest⟩ := mid
    simp only at ended
    subst ended
    obtain ⟨rfl, rfl⟩ := next_of_reads_nil tail
    refine (closed rfl).imp_right fun shut => ⟨?_, sign⟩
    cases n <;> exact shut
  · obtain ⟨rfl, rfl⟩ := plain_of_readsNode sign head
    exact .plain (isPlain_iff.mpr ⟨sign, inside⟩) fun _ past => after past steady' closedTail

theorem afterStatement_of_ended (column : Nat) (ended : next.rest = []) :
    (afterStatement column next).rest = [] := by
  have suffix := (Cursor.Reaches.afterStatement column next).suffix
  rwa [ended, List.suffix_nil] at suffix

namespace NodeOn

variable {name : String} {equals closed : Cursor}

theorem assign (target : target? c = some (name, equals))
    (value : Reads ('\n' :: stops) equals.skipSpaces t next)
    (body : TreeOn w ('\n' :: stops) equals.skipSpaces t next) :
    NodeOn w stops '$' c (.assign name t.trim (signColumn c) false [])
      (afterStatement (signColumn c) next) := by
  intro within c' longer starts steady closed
  obtain ⟨equals', target', past⟩ := (longer.dollar steady).1.exists_some target
  rw [target] at starts
  have more : next.rest = [] → w = [] := fun ended =>
    (closed (afterStatement_of_ended _ ended)).resolve_right fun shut => by cases shut.1
  have spaced := past.skipSpaces fun ended => more (rest_eq_nil_of_reads value ended)
  have steadyValue : isSteady w within equals.skipSpaces.rest = true :=
    isSteady_of_suffix (isSteady_tail steady)
      ((Cursor.Reaches.of_scan .target? target).trans (.skipSpaces _)).suffix
  have read := (body spaced steadyValue fun ended => .inl (more ended)).treeIn value more
  exact .assign target' (starts rfl (.inl rfl)) read fun ended => by rw [more ended]; nofun

theorem symbol (target : target? c = none) (named : c.name? = some (name, next)) :
    NodeOn w stops '$' c (.symbol name (chain next).value) (chain next).next := by
  intro _ c' longer _ steady _
  obtain ⟨untargeted, seen⟩ := longer.dollar steady
  have found : symbol? c = some ((name, (chain next).value), (chain next).next) := by
    rw [symbol?, named]
    rfl
  obtain ⟨_, found', ended⟩ := (seen target).exists_some found
  obtain ⟨⟨_, next'⟩, named', same⟩ := Option.map_eq_some_iff.mp found'
  obtain ⟨⟨rfl, value⟩, rfl⟩ := (by simpa using same :
    (_ = name ∧ (chain next').value = (chain next).value) ∧ (chain next').next = _)
  exact .symbol (eq_none_of_rel untargeted target) named' ⟨value, ended⟩

theorem dollar (named : c.name? = none) : NodeOn w stops '$' c (.text "$") c := by
  intro _ c' longer _ steady _
  have target : target? c = none := by rw [target?, named]; rfl
  have seen := (longer.dollar steady).2 target
  rw [symbol?, named] at seen
  have named' := Option.map_eq_none_iff.mp (eq_none_of_rel seen rfl)
  exact ⟨_, _, .dollar named', longer, rfl⟩

theorem dynamic (target : target? c = some (name, equals)) :
    NodeOn w stops '&' c (dynamic stops c).value (dynamic stops c).next := by
  intro _ c' longer starts steady closed
  obtain ⟨equals', target', past⟩ := (longer.target? steady).exists_some target
  obtain ⟨value, next⟩ := dynamic_of_target? stops target
  rw [target] at starts
  rw [value, next] at closed
  have more : (equals.span (isSource stops)).2.rest = [] → w = [] := fun ended =>
    (closed (afterStatement_of_ended _ ended)).resolve_right fun shut => by cases shut.1
  exact .dynamic target target' (past.span_of_stopped more)
    (fun ended => by rw [more ended]; nofun) fun line => starts rfl (.inr ⟨rfl, line⟩)

theorem inlineAssign (opened : c.after? ')' = none)
    (target : inlineTarget? c = some (name, equals)) (value : Reads [')'] equals.skipSpaces t next)
    (close : next.after? ')' = some closed) (body : TreeOn w [')'] equals.skipSpaces t next) :
    NodeOn w stops '(' c (.assign name t.trim c.skipSpaces.column true (chain closed).value)
      (chain closed).next := by
  intro _ c' longer _ steady _
  obtain ⟨equals', target', past⟩ := (longer.inlineTarget? steady).exists_some target
  have within := isSteady_open steady (head?_of_after?_eq_none opened)
  have goesOn : next.rest ≠ [] := by
    rw [Cursor.rest_of_after? close]
    exact List.cons_ne_nil _ _
  have inside : equals.skipSpaces.rest <:+ c.rest :=
    ((Cursor.Reaches.of_scan .inlineTarget? target).trans (.skipSpaces _)).suffix
  have spaced := past.skipSpaces fun ended => absurd (rest_eq_nil_of_reads value ended) goesOn
  have read := (body spaced (isSteady_of_suffix within inside) fun ended =>
    absurd ended goesOn).treeIn value fun ended => absurd ended goesOn
  have opened' := longer.after?_eq_none opened fun ended =>
    absurd ended (rest_ne_nil_of_inlineTarget? target)
  have dollar : c.skipSpaces.rest ≠ [] := by
    obtain ⟨sign, come, _⟩ := Option.bind_eq_some_iff.mp target
    rw [Cursor.rest_of_after? come]
    exact List.cons_ne_nil _ _
  have steadyEnd := isSteady_of_suffix within ((suffix_of_reads value).trans inside)
  rw [Cursor.rest_of_after? close] at steadyEnd
  exact .inlineAssign (longer.skipSpaces fun ended => absurd ended dollar) opened' target' read
    close fun _ after => after.chain steadyEnd

theorem choice {found : List Alternative} (opened : c.after? ')' = none)
    (target : inlineTarget? c = none) (read : ReadsAlternatives c found closed)
    (body : AlternativesOn w c found closed) :
    NodeOn w stops '(' c (.choice found (chain closed).value) (chain closed).next := by
  intro _ c' longer _ steady _
  have within := isSteady_open steady (head?_of_after?_eq_none opened)
  have opened' := longer.after?_eq_none opened fun ended =>
    absurd ended (rest_ne_nil_of_readsAlternatives read)
  exact .choice opened' (eq_none_of_rel (longer.inlineTarget? steady) target) (body longer within)
    fun _ after => after.chain (isSteady_of_suffix within (suffix_of_readsAlternatives read))

theorem brace (other : guard c = .other) : NodeOn w stops '\x7b' c (.text "\x7b") c := by
  intro _ c' longer _ steady _
  have none := eq_none_of_rel (longer.conditions? steady) (conditions?_eq_none_iff.mpr other)
  exact ⟨_, _, .brace (conditions?_eq_none_iff.mp none), longer, rfl⟩

section

variable {conditions : Parsed (List Condition) c.rest.length}

theorem guardAlone (found : guard c = .conditions conditions)
    (last : ∀ first ∈ conditions.next.skipSpaces.rest.head?, first = '\n' ∨ first ∈ stops) :
    NodeOn w stops '\x7b' c (.guarded conditions.value []) conditions.next.skipSpaces := by
  intro _ c' longer _ steady closed
  obtain ⟨read, found', value, past⟩ := longer.exists_conditions steady found
  have more : _ → w = [] := fun ended => (closed ended).resolve_right fun shut => by cases shut.1
  refine .guardAlone found' value (past.skipSpaces more) last fun ended x mem => ?_
  rw [more ended] at mem
  cases mem

theorem guarded {rest : List Char} {first : Char} {n : Node} (found : guard c = .conditions conditions)
    (more : conditions.next.skipSpaces.rest = first :: rest) (line : first ≠ '\n')
    (inside : first ∉ stops)
    (read : ReadsNode stops first ⟨first :: conditions.next.skipSpaces.before, rest⟩ n next)
    (body : NodeOn w stops first ⟨first :: conditions.next.skipSpaces.before, rest⟩ n next) :
    NodeOn w stops '\x7b' c (.guarded conditions.value [n]) next := by
  intro within c' longer _ steady closed
  obtain ⟨_, found', value, past⟩ := longer.exists_conditions steady found
  have spaced := past.skipSpaces fun ended => by rw [more] at ended; cases ended
  obtain ⟨more', step, start⟩ := spaced.step more
  have steadyBody : isSteady w within (first :: rest) = true := by
    rw [← more]
    exact isSteady_of_suffix (isSteady_tail steady)
      ((Cursor.Reaches.guard found).trans (.skipSpaces _)).suffix
  refine .guarded found' value more' line inside
    (body step (fun _ _ => start) steadyBody fun ended => ?_)
  refine (closed ended).imp_right fun shut => ?_
  have apart : n.isText = false ∧ n.isOpen = false := Bool.or_eq_false_iff.mp shut.1
  refine ⟨apart.2, ?_⟩
  by_contra sign
  obtain ⟨rfl, _⟩ := plain_of_readsNode sign read
  cases apart.1

end

theorem plain {first : Char} (sign : first ∉ signs) :
    NodeOn w stops first c (plain stops first c).value (plain stops first c).next := by
  intro _ c' longer _ _ closed
  have more : (c.span (isPlain stops)).2.rest = [] → w = [] :=
    fun ended => (closed ended).resolve_right fun shut => sign shut.2
  obtain ⟨run, ended⟩ := longer.span_of_stopped more
  refine ⟨_, _, .plain sign, ended, ?_⟩
  rw [plain_value, plain_value, run]

end NodeOn

namespace AlternativesOn

variable {start closed : Cursor} {found : List Alternative}

theorem more (head : Reads ['|', ')'] c t next) (bar : next.after? '|' = some start)
    (first : TreeOn w ['|', ')'] c t next) (later : AlternativesOn w start found closed) :
    AlternativesOn w c (Alternative.ofTree t :: found) closed := by
  intro c' longer steady
  have goesOn : next.rest = [] → w = [] := by
    rw [Cursor.rest_of_after? bar]
    nofun
  refine .more ((first longer steady fun ended => .inl (goesOn ended)).treeIn head goesOn) bar
    fun _ past => later past (isSteady_of_suffix steady ?_)
  exact (Cursor.Reaches.after? bar).suffix.trans (suffix_of_reads head)

theorem last (head : Reads ['|', ')'] c t next) (bar : next.after? '|' = none)
    (close : next.after? ')' = some closed) (only : TreeOn w ['|', ')'] c t next) :
    AlternativesOn w c [Alternative.ofTree t] closed := by
  intro c' longer steady
  have goesOn : next.rest = [] → w = [] := by
    rw [Cursor.rest_of_after? close]
    nofun
  exact .last ((only longer steady fun ended => .inl (goesOn ended)).treeIn head goesOn) bar close

end AlternativesOn

mutual

theorem reads_on : ∀ {stops : List Char} {c next : Cursor} {t : Tree}, Reads stops c t next →
    TreeOn w stops c t next
  | _, _, _, _, .done => fun _ _ longer _ _ => .nil longer
  | _, _, _, _, .stop _ => fun _ _ longer _ _ => .nil longer
  | _, _, _, _, .cons inside head tail =>
    .cons inside head tail (readsNode_on head) (reads_on tail)

theorem readsNode_on : ∀ {stops : List Char} {first : Char} {c next : Cursor} {n : Node},
    ReadsNode stops first c n next → NodeOn w stops first c n next
  | _, _, _, _, _, .newline => fun _ _ longer _ _ _ => ⟨_, _, .newline, longer, rfl⟩
  | _, _, _, _, _, .assign target value => .assign target value (reads_on value)
  | _, _, _, _, _, .symbol target named => .symbol target named
  | _, _, _, _, _, .dollar named => .dollar named
  | _, _, _, _, _, .dynamic target => .dynamic target
  | _, _, _, _, _, .ampersand target => fun _ _ longer _ steady _ =>
    ⟨_, _, .ampersand (eq_none_of_rel (longer.target? steady) target), longer, rfl⟩
  | _, _, _, _, _, .pair shut => fun _ _ longer _ _ _ =>
    have ⟨_, shut', past⟩ := longer.exists_after? shut
    ⟨_, _, .pair shut', past, rfl⟩
  | _, _, _, _, _, .inlineAssign opened target value close =>
    .inlineAssign opened target value close (reads_on value)
  | _, _, _, _, _, .choice opened target body => .choice opened target body (alternatives_on body)
  | _, _, _, _, _, .brace other => .brace other
  | _, _, _, _, _, .guardAlone found last => .guardAlone found last
  | _, _, _, _, _, .guarded found more line inside body =>
    .guarded found more line inside body (readsNode_on body)
  | _, _, _, _, _, .close => fun _ _ longer _ _ _ => ⟨_, _, .close, longer, rfl⟩
  | _, _, _, _, _, .bar => fun _ _ longer _ _ _ => ⟨_, _, .bar, longer, rfl⟩
  | _, _, _, _, _, .plain sign => .plain sign

theorem alternatives_on : ∀ {c closed : Cursor} {found : List Alternative},
    ReadsAlternatives c found closed → AlternativesOn w c found closed
  | _, _, _, .more head bar tail => .more head bar (reads_on head) (alternatives_on tail)
  | _, _, _, .last head bar close => .last head bar close (reads_on head)

end

/- The second text. -/

theorem reads_elsewhere (h : Reads stops c t next) (text : c'.rest = c.rest)
    (starts : opensStatement c = true → (c.column = 0 ↔ c'.column = 0)) :
    ∃ t' next', Reads stops c' t' next' ∧ next'.rest = next.rest ∧ t.Alike t' := by
  obtain ⟨b', rest'⟩ := c'
  simp only at text
  rw [text]
  cases h with
  | done => exact ⟨[], _, .done, rfl, rfl⟩
  | stop stop => exact ⟨[], _, .stop stop, rfl, rfl⟩
  | @cons _ b rest first n mid _ t inside head tail =>
    have step : Longer [] ⟨first :: b, rest⟩ ⟨first :: b', rest⟩ :=
      ⟨(List.append_nil _).symm, column_cons_eq_zero_iff first _ _ _ _⟩
    have node := readsNode_on head step (signColumn_of_opensStatement starts) (isSteady_nil _ false)
      fun _ => .inl rfl
    obtain ⟨t', next', reads, ended, alike⟩ := TreeIn.cons inside node fun _ past =>
      (reads_on tail past (isSteady_nil _ false) fun _ => .inl rfl).treeIn tail fun _ => rfl
    exact ⟨t', next', reads, by rw [ended.rest, List.append_nil], alike⟩

theorem column_of_newline {first : Char} {b rest : List Char} {n : Node} {next : Cursor}
    (h : ReadsNode stops first ⟨first :: b, rest⟩ n next) (line : n = .newline) :
    next.column = 0 := by
  cases h with
  | newline => simp [Cursor.column]
  | dynamic target =>
    rw [(dynamic_of_target? stops target).1] at line
    cases line
  | plain => cases line
  | _ => cases line

theorem column_of_endsLine : ∀ {c next : Cursor} {t : Tree}, Reads stops c t next →
    t.endsLine = true → (t = [] → c.column = 0) → next.column = 0
  | _, _, _, .done, _, start => start rfl
  | _, _, _, .stop _, _, start => start rfl
  | _, _, _, @Reads.cons _ b rest first n mid next t _ head tail, ends, _ => by
    have later := column_of_endsLine tail
    by_cases more : t = []
    · refine later (by rw [more]; rfl) fun _ => column_of_newline head ?_
      rw [more] at ends
      cases n with
      | newline => rfl
      | _ => cases ends
    · refine later ?_ fun none => absurd none more
      rw [Tree.endsLine] at ends ⊢
      rcases Tree.getLast?_cons n more with same | ⟨s, v, first, _⟩
      · rwa [same] at ends
      · rw [first] at ends
        cases ends

def keepsApart (text : String) (t : Tree) (after : String) : Bool :=
  after = "" ||
    (isSteady after.toList false text.toList && !t.endsOpen &&
      (t.endsLine || !opensStatement (Cursor.start after)))

theorem exists_ofText?_append {a b : String} {t u : Tree} (first : Tree.ofText? a = .ok t)
    (second : Tree.ofText? b = .ok u) (apart : keepsApart a t b = true) :
    ∃ v, Tree.ofText? (a ++ b) = .ok v ∧ (t.joined u).Alike v := by
  obtain ⟨next, read⟩ := (ofText?_eq_ok_iff a t).mp first
  obtain ⟨last, more⟩ := (ofText?_eq_ok_iff b u).mp second
  rw [keepsApart, Bool.or_eq_true, Bool.and_eq_true, Bool.and_eq_true, decide_eq_true_eq,
    Bool.or_eq_true, Bool.not_eq_true', Bool.not_eq_true'] at apart
  rcases apart with rfl | ⟨⟨steady, shut⟩, start⟩
  · obtain ⟨rfl, _⟩ := next_of_reads_nil (b := []) more
    exact ⟨t, by rw [String.append_empty]; exact first, by rw [joined_nil_of_reads read]; rfl⟩
  · have longer : Longer b.toList (Cursor.start a) (Cursor.start (a ++ b)) :=
      ⟨String.toList_append, Iff.rfl⟩
    obtain ⟨next', ended, goesOn⟩ := reads_on read longer steady fun _ => .inr shut
    have ended' : next'.rest = (Cursor.start b).rest := by
      rw [ended.rest, rest_of_reads read]
      rfl
    obtain ⟨u', last', reads, _, alike⟩ := reads_elsewhere more ended' fun opens => by
      have line := start.resolve_right (by rw [opens]; exact Bool.noConfusion)
      rw [← ended.column]
      exact iff_of_true rfl (column_of_endsLine read line fun _ => rfl)
    obtain ⟨v, whole, same⟩ := goesOn u' last' reads
    refine ⟨v, (ofText?_eq_ok_iff _ v).mpr ⟨last', whole⟩, ?_⟩
    rw [Tree.Alike, Tree.mapColumns_joined, alike, ← Tree.mapColumns_joined, same]

end TextGen.Script
