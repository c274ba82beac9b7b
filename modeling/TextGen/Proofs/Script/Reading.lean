import Mathlib
import TextGen.Proofs.Script.Related

/-! Reading what was written.
Plain text is read one character after the other, and a name or a chain that is followed by nothing
that could belong to it is read as it stands. -/
namespace TextGen.Script

variable {stops : List Char} {first : Char}

/- Plain text. -/

def isPlain (stops : List Char) (c : Char) : Bool := !signs.contains c && !stops.contains c

theorem isPlain_iff {c : Char} : isPlain stops c = true ↔ c ∉ signs ∧ c ∉ stops := by
  simp [isPlain]

theorem plain_value (stops : List Char) (first : Char) (c : Cursor) :
    (plain stops first c).value = .text (String.ofList (first :: (c.span (isPlain stops)).1)) := rfl

theorem plain_next (stops : List Char) (first : Char) (c : Cursor) :
    (plain stops first c).next = (c.span (isPlain stops)).2 := rfl

theorem plain_of_readsNode {c next : Cursor} {n : Node} (sign : first ∉ signs)
    (h : ReadsNode stops first c n next) :
    n = (plain stops first c).value ∧ next = (plain stops first c).next := by
  cases h with
  | plain => exact ⟨rfl, rfl⟩
  | _ => exact absurd (by decide) sign

theorem Tree.cons_text_append (s u : String) (t : Tree) :
    Tree.cons (.text (s ++ u)) t = Tree.cons (.text s) (Tree.cons (.text u) t) := by
  cases t with
  | nil => rfl
  | cons n t =>
    cases n with
    | text v => simp only [Tree.cons, String.append_assoc]
    | _ => rfl

theorem span_isPlain_of_not {b rest : List Char} (h : ∀ x ∈ rest.head?, isPlain stops x = false) :
    (Cursor.mk b rest).span (isPlain stops) = ([], ⟨b, rest⟩) := by
  cases rest with
  | nil => rfl
  | cons x rest =>
    have fails := h x rfl
    simp [Cursor.span, fails]

theorem span_isPlain_of_isPlain {b rest : List Char} {x : Char} (h : isPlain stops x = true) :
    (Cursor.mk b (x :: rest)).span (isPlain stops) =
      (x :: ((Cursor.mk (x :: b) rest).span (isPlain stops)).1,
        ((Cursor.mk (x :: b) rest).span (isPlain stops)).2) := by
  simp [Cursor.span, h]

theorem reads_plain_iff {b rest : List Char} {t : Tree} {next : Cursor}
    (h : isPlain stops first = true) :
    Reads stops ⟨b, first :: rest⟩ t next ↔
      ∃ t₀, Reads stops ⟨first :: b, rest⟩ t₀ next ∧
        t = Tree.cons (.text (String.singleton first)) t₀ := by
  obtain ⟨sign, stop⟩ := isPlain_iff.mp h
  by_cases more : ∃ x ∈ rest.head?, isPlain stops x = true
  · obtain ⟨x, head, passes⟩ := more
    obtain ⟨rest, rfl⟩ : ∃ rest', rest = x :: rest' := by
      cases rest with
      | nil => cases head
      | cons y rest =>
        cases head
        exact ⟨rest, rfl⟩
    obtain ⟨sign', stop'⟩ := isPlain_iff.mp passes
    have joined : ∀ (run : List Char) (u : Tree),
        Tree.cons (.text (String.ofList (first :: x :: run))) u =
          Tree.cons (.text (String.singleton first)) (Tree.cons (.text (String.ofList (x :: run))) u) := by
      intro run u
      rw [← Tree.cons_text_append, ← String.ofList_cons]
    constructor
    · intro read
      cases read with
      | stop mem => exact absurd mem stop
      | cons _ head tail =>
        obtain ⟨rfl, rfl⟩ := plain_of_readsNode sign head
        rw [plain_value, span_isPlain_of_isPlain passes, joined]
        rw [plain_next, span_isPlain_of_isPlain passes] at tail
        exact ⟨_, .cons stop' (.plain sign') tail, rfl⟩
    · rintro ⟨t₀, read, rfl⟩
      cases read with
      | stop mem => exact absurd mem stop'
      | cons _ head tail =>
        obtain ⟨rfl, rfl⟩ := plain_of_readsNode sign' head
        rw [plain_next] at tail
        rw [plain_value, ← joined]
        have head : ReadsNode stops first ⟨first :: b, x :: rest⟩ _ _ := .plain sign
        rw [plain_value, plain_next, span_isPlain_of_isPlain passes] at head
        exact .cons stop head tail
  · have ends : ∀ x ∈ rest.head?, isPlain stops x = false := by
      intro x head
      by_contra passes
      exact more ⟨x, head, by simpa using passes⟩
    have head : ReadsNode stops first ⟨first :: b, rest⟩ _ _ := .plain sign
    rw [plain_value, plain_next, span_isPlain_of_not ends] at head
    constructor
    · intro read
      cases read with
      | stop mem => exact absurd mem stop
      | cons _ node tail =>
        obtain ⟨rfl, rfl⟩ := plain_of_readsNode sign node
        rw [plain_next, span_isPlain_of_not ends] at tail
        rw [plain_value, span_isPlain_of_not ends]
        exact ⟨_, tail, rfl⟩
    · rintro ⟨t₀, read, rfl⟩
      exact .cons stop head read

theorem Tree.trim_cons_blank {c : Char} (blank : Text.isBlank c = true) (t : Tree) :
    (Tree.cons (.text (String.singleton c)) t).trim = t.trim := by
  have alone : trimNodeStart (.text (String.singleton c)) = .text "" := by
    simp [trimNodeStart, Text.trimStart, blank]
  have empty : ∀ u : Tree, u ≠ [] →
      (mapLast trimNodeEnd (.text "" :: u)).filter (!isBlankText ·) =
        (mapLast trimNodeEnd u).filter (!isBlankText ·) := by
    intro u some_
    cases u with
    | nil => exact absurd rfl some_
    | cons n u =>
      rw [mapLast, List.filter_cons_of_neg (by simp [isBlankText])]
      simp
  cases t with
  | nil => simp [Tree.cons, trim, alone, mapLast, trimNodeEnd, isBlankText, Text.trimEnd]
  | cons n t =>
    cases n with
    | text u => simp [Tree.cons, trim, trimNodeStart, Text.trimStart, blank]
    | _ =>
      simp only [Tree.cons, trim, alone]
      exact empty _ (List.cons_ne_nil _ _)

theorem eq_of_mem_closing {c : Char} (closing : stops ⊆ [')', '|']) (mem : c ∈ stops) :
    c = ')' ∨ c = '|' := by
  simpa using closing mem

theorem isPlain_of_isSpace {c : Char} (space : Cursor.isSpace c = true) (stop : c ∉ stops) :
    isPlain stops c = true := by
  refine isPlain_iff.mpr ⟨?_, stop⟩
  simp only [Cursor.isSpace, Bool.or_eq_true, decide_eq_true_eq] at space
  rcases space with (rfl | rfl) | rfl <;> decide

theorem Cursor.skipSpaces_cons {b rest : List Char} {x : Char} (space : isSpace x = true) :
    skipSpaces ⟨b, x :: rest⟩ = skipSpaces ⟨x :: b, rest⟩ := by
  simp [skipSpaces, span, space]

theorem Cursor.skipSpaces_of_head? {c : Cursor} (h : ∀ x ∈ c.rest.head?, isSpace x = false) :
    c.skipSpaces = c := by
  obtain ⟨b, rest⟩ := c
  cases rest with
  | nil => rfl
  | cons x rest => simp [skipSpaces, span, h x rfl]

theorem exists_reads_skipSpaces {c next : Cursor} {t : Tree} (h : Reads stops c t next)
    (solid : ∀ x ∈ stops, Cursor.isSpace x = false) :
    ∃ t₀, Reads stops c.skipSpaces t₀ next ∧ t.trim = t₀.trim := by
  obtain ⟨b, rest⟩ := c
  induction rest generalizing b t with
  | nil => exact ⟨t, h, rfl⟩
  | cons x rest ih =>
    by_cases space : Cursor.isSpace x = true
    · have stop : x ∉ stops := by
        intro mem
        rw [solid x mem] at space
        cases space
      obtain ⟨t₀, read, rfl⟩ := (reads_plain_iff (isPlain_of_isSpace space stop)).mp h
      obtain ⟨t₁, skipped, same⟩ := ih (x :: b) read
      refine ⟨t₁, ?_, ?_⟩
      · rw [Cursor.skipSpaces_cons space]
        exact skipped
      · rw [Tree.trim_cons_blank (Cursor.isBlank_of_isSpace space), same]
    · refine ⟨t, ?_, rfl⟩
      rw [Cursor.skipSpaces_of_head? fun y head => by cases head; simpa using space]
      exact h

/- Names and chains. -/

def isName (s : String) : Bool :=
  match s.toList with
  | [] => false
  | first :: rest => Cursor.isNameStart first && rest.all Cursor.isNameChar

def Chain.isNamed (c : Chain) : Bool := c.all fun s => isName s.name

def endsItem (rest : List Char) : Bool :=
  match rest with
  | [] => true
  | c :: _ => !Cursor.isNameChar c && c ≠ '.' && c ≠ '('

theorem isNameChar_of_isName {s : String} (h : isName s = true) :
    ∀ c ∈ s.toList, Cursor.isNameChar c = true := by
  unfold isName at h
  split at h
  · cases h
  · rename_i first rest text
    rw [Bool.and_eq_true, List.all_eq_true] at h
    rw [text]
    exact List.forall_mem_cons.mpr ⟨Cursor.isNameChar_of_isNameStart h.1, h.2⟩

theorem Cursor.exists_after? {c : Cursor} {sign : Char} {rest : List Char}
    (text : c.rest = sign :: rest) : ∃ next, c.after? sign = some next ∧ next.rest = rest := by
  refine ⟨⟨sign :: c.before, rest⟩, ?_, rfl⟩
  simp [after?, text]

theorem Cursor.after?_eq_none {c : Cursor} {sign : Char} (other : c.rest.head? ≠ some sign) :
    c.after? sign = none := by
  unfold after?
  cases rest : c.rest with
  | nil => rfl
  | cons x rest' =>
    rw [rest] at other
    exact if_neg fun same => other (congrArg some same)

theorem Cursor.exists_name? {c : Cursor} {s : String} {rest : List Char} (named : isName s = true)
    (text : c.rest = s.toList ++ rest) (ends : ∀ x ∈ rest.head?, isNameChar x = false) :
    ∃ next, c.name? = some (s, next) ∧ next.rest = rest := by
  have all := isNameChar_of_isName named
  have run := Text.takeWhile_append_of_run all ends
  rw [← text] at run
  obtain ⟨taken, dropped⟩ := run
  refine ⟨(c.span isNameChar).2, ?_, dropped⟩
  unfold isName at named
  unfold name?
  split at named
  · cases named
  · rename_i first more split
    rw [Bool.and_eq_true] at named
    rw [text, split, List.cons_append]
    simp only [named.1, if_true, span]
    rw [taken, String.ofList_toList]

theorem exists_segment? {c : Cursor} {s : Segment} {rest : List Char} (named : isName s.name = true)
    (text : c.rest = s.text.toList ++ rest)
    (ends : ∀ x ∈ rest.head?, Cursor.isNameChar x = false ∧ x ≠ '(') :
    ∃ next, segment? c = some (s, next) ∧ next.rest = rest := by
  obtain ⟨name, call⟩ := s
  rw [Segment.text, String.toList_append, String.toList_append, List.append_assoc,
    List.append_assoc] at text
  have text : c.rest = '.' :: (name.toList ++ ((if call then "()" else "").toList ++ rest)) := text
  obtain ⟨dot, dotted, afterDot⟩ := Cursor.exists_after? text
  cases call with
  | false =>
    obtain ⟨next, read, left⟩ := Cursor.exists_name? named afterDot fun x head => (ends x head).1
    have open_ : next.after? '(' = none := by
      apply Cursor.after?_eq_none
      rw [left]
      intro head
      exact (ends '(' head).2 rfl
    refine ⟨next, ?_, left⟩
    simp only [segment?, Cursor.nameAfter?, dotted, Option.bind_some, read, Option.map_some, open_,
      Option.bind_none]
  | true =>
    have afterDot : dot.rest = name.toList ++ '(' :: ')' :: rest := afterDot
    obtain ⟨next, read, left⟩ := Cursor.exists_name? named afterDot fun x head => by
      cases head
      decide
    obtain ⟨inside, opened, afterOpen⟩ := Cursor.exists_after? left
    obtain ⟨closed, shut, after⟩ := Cursor.exists_after? afterOpen
    refine ⟨closed, ?_, after⟩
    simp only [segment?, Cursor.nameAfter?, dotted, Option.bind_some, read, Option.map_some, opened,
      shut]

theorem Chain.text_cons (s : Segment) (T : Chain) :
    (Chain.text (s :: T)).toList = s.text.toList ++ T.text.toList := by
  simp [Chain.text]

theorem Chain.head?_text_append {T : Chain} {rest : List Char} (ends : endsItem rest = true) :
    ∀ x ∈ (T.text.toList ++ rest).head?, Cursor.isNameChar x = false ∧ x ≠ '(' := by
  intro x head
  cases T with
  | nil =>
    cases rest with
    | nil => cases head
    | cons y rest =>
      cases head
      simp only [endsItem, Bool.and_eq_true, Bool.not_eq_true', decide_eq_true_eq] at ends
      exact ⟨ends.1.1, ends.2⟩
  | cons s T =>
    rw [Chain.text_cons, Segment.text, String.toList_append, String.toList_append] at head
    cases head
    decide

theorem chain_of_text {T : Chain} : ∀ {c : Cursor} {rest : List Char}, T.isNamed = true →
    c.rest = T.text.toList ++ rest → endsItem rest = true →
    (chain c).value = T ∧ (chain c).next.rest = rest := by
  induction T with
  | nil =>
    intro c rest _ text ends
    have text : c.rest = rest := text
    have none : segment? c = none := by
      have undotted : c.after? '.' = none := by
        apply Cursor.after?_eq_none
        rw [text]
        intro head
        cases rest with
        | nil => cases head
        | cons x rest =>
          cases head
          simp [endsItem] at ends
      simp only [segment?, Cursor.nameAfter?, undotted, Option.bind_none, Option.map_none]
    rw [(chain_of_segment?_eq_none none).1, (chain_of_segment?_eq_none none).2]
    exact ⟨rfl, text⟩
  | cons s T ih =>
    intro c rest named text ends
    rw [Chain.isNamed, List.all_cons, Bool.and_eq_true] at named
    rw [Chain.text_cons, List.append_assoc] at text
    obtain ⟨next, read, left⟩ := exists_segment? named.1 text (Chain.head?_text_append ends)
    obtain ⟨value, after⟩ := ih named.2 left ends
    rw [(chain_of_segment? read).1, (chain_of_segment? read).2, value]
    exact ⟨rfl, after⟩

/- Targets. -/

theorem Cursor.column_of_after? {c next : Cursor} {sign : Char} (line : sign ≠ '\n')
    (h : c.after? sign = some next) : next.column ≠ 0 := by
  unfold after? at h
  split at h
  · cases h
  · split at h
    · rename_i same
      cases h
      simp [column, same, line]
    · cases h

theorem Cursor.column_skipSpaces {c : Cursor} (h : c.column ≠ 0) : c.skipSpaces.column ≠ 0 := by
  have inLine : ∀ x ∈ (c.rest.takeWhile isSpace).reverse, x ≠ '\n' := by
    rintro x mem rfl
    exact absurd (List.mem_takeWhile_imp (List.mem_reverse.mp mem)) (by decide)
  unfold column skipSpaces span at *
  simp only
  rw [List.takeWhile_append_of_pos fun x mem => by simpa using inLine x mem, List.length_append]
  omega

theorem exists_target? {c : Cursor} {name : String} {rest : List Char} (named : isName name = true)
    (text : c.rest = name.toList ++ '=' :: rest) (single : rest.head? ≠ some '=') :
    ∃ next, target? c = some (name, next) ∧ next.rest = rest ∧ next.column ≠ 0 := by
  obtain ⟨mid, read, left⟩ := Cursor.exists_name? named text fun x head => by
    cases head
    decide
  have unspaced : mid.skipSpaces = mid := by
    apply Cursor.skipSpaces_of_head?
    rw [left]
    intro x head
    cases head
    decide
  obtain ⟨next, equals, after⟩ := Cursor.exists_after? left
  refine ⟨next, ?_, after, Cursor.column_of_after? (by decide) equals⟩
  simp only [target?, read, Option.bind_some, unspaced, Cursor.assigned?, equals, after,
    if_neg single, Option.map_some]

theorem exists_inlineTarget? {c : Cursor} {name : String} {rest : List Char}
    (named : isName name = true) (text : c.rest = '$' :: (name.toList ++ '=' :: rest))
    (single : rest.head? ≠ some '=') :
    c.skipSpaces = c ∧ ∃ next, inlineTarget? c = some (name, next) ∧ next.rest = rest ∧
      next.column ≠ 0 := by
  have unspaced : c.skipSpaces = c := by
    apply Cursor.skipSpaces_of_head?
    rw [text]
    intro x head
    cases head
    decide
  obtain ⟨sign, dollar, after⟩ := Cursor.exists_after? text
  obtain ⟨next, target, left⟩ := exists_target? named after single
  refine ⟨unspaced, next, ?_, left⟩
  rw [inlineTarget?, unspaced, dollar, Option.bind_some, target]

theorem reads_nil {c : Cursor} (ended : c.rest = []) : Reads stops c [] c := by
  obtain ⟨b, rest⟩ := c
  simp only at ended
  rw [ended]
  exact .done

end TextGen.Script
