import TextGen.Script.Cursor
import TextGen.Script.Node

/-! Reading scripts.
A symbol is a dollar sign and a name; an assignment puts an equals sign after it, and an ampersand
instead of the dollar keeps the source of the value. Parentheses hold alternatives or an assignment
within a line, and braces hold the conditions that guard what follows. All else is text, also a sign
that opens nothing; only parentheses and conditions that are not closed are errors. Every reader
goes on, so reading ends. -/
namespace TextGen.Script

/-- Why a text is not understood. -/
inductive ParseError where
  | unclosed (opening : Char) (position : Nat)
  | unknownOperator (text : String)
deriving DecidableEq, Repr

namespace ParseError

def position : ParseError → Nat
  | unclosed _ position => position
  | unknownOperator _ => 0

def cause : ParseError → String
  | unclosed opening _ => "unclosed '" ++ String.singleton opening ++ "'"
  | unknownOperator text => "unknown operator '" ++ text ++ "'"

def message (e : ParseError) : String :=
  "parse error at " ++ toString e.position ++ ": " ++ e.cause

end ParseError

def Operator.parse (text : String) : Except ParseError Operator :=
  match Operator.ofText? text with
  | some o => .ok o
  | none => .error (.unknownOperator (Text.trimmed text))

/-- What was read, and the place after it, where at most `bound` characters are left. -/
structure Parsed (α : Type) (bound : Nat) where
  value : α
  next : Cursor
  within : next.rest.length ≤ bound

namespace Parsed

variable {α β : Type} {bound wider : Nat}

def map (f : α → β) (p : Parsed α bound) : Parsed β bound := ⟨f p.value, p.next, p.within⟩

def widen (p : Parsed α bound) (h : bound ≤ wider) : Parsed α wider :=
  ⟨p.value, p.next, Nat.le_trans p.within h⟩

end Parsed

/-- The signs that may open or close a construct. -/
def signs : List Char := ['$', '&', '(', ')', '|', '\x7b', '\n']

/-! ### Readers without recursion into trees -/

/-- A point and a name, with or without parentheses. -/
def segment? (c : Cursor) : Option (Segment × Cursor) :=
  (c.nameAfter? '.').map fun (name, next) =>
    match (next.after? '(').bind (·.after? ')') with
    | some closed => (⟨name, true⟩, closed)
    | none => (⟨name, false⟩, next)

theorem segment?_length_lt {c next : Cursor} {s : Segment} (h : segment? c = some (s, next)) :
    next.rest.length < c.rest.length := by
  unfold segment? at h
  cases hn : c.nameAfter? '.' with
  | none => rw [hn] at h; cases h
  | some named =>
    obtain ⟨name, mid⟩ := named
    have shorter := Cursor.nameAfter?_length_lt hn
    rw [hn] at h
    simp only [Option.map_some, Option.some.injEq] at h
    cases ho : mid.after? '(' with
    | none =>
      rw [ho] at h
      simp only [Option.bind_none, Prod.mk.injEq] at h
      rw [← h.2]
      exact shorter
    | some opened =>
      rw [ho] at h
      simp only [Option.bind_some] at h
      have first := Cursor.after?_length ho
      cases hc : opened.after? ')' with
      | none =>
        rw [hc] at h
        simp only [Prod.mk.injEq] at h
        rw [← h.2]
        exact shorter
      | some closed =>
        rw [hc] at h
        simp only [Prod.mk.injEq] at h
        have second := Cursor.after?_length hc
        rw [← h.2]
        omega

def chain (c : Cursor) : Parsed Chain c.rest.length :=
  match h : segment? c with
  | none => ⟨[], c, Nat.le_refl _⟩
  | some (s, next) =>
    have shorter := segment?_length_lt h
    ((chain next).map (s :: ·)).widen (Nat.le_of_lt shorter)
termination_by c.rest.length

def operator? (c : Cursor) : Option (Operator × Cursor) :=
  Operator.spellings.findSome? fun (spelling, o) =>
    let signs := spelling.toList
    (Text.dropPrefix? signs c.rest).map fun rest => (o, ⟨signs.reverse ++ c.before, rest⟩)

/-- The value of a condition, up to a comma, a brace or a line end. -/
def isConditionChar (c : Char) : Bool := c ≠ ',' && c ≠ '\x7d' && c ≠ '\n'

/-- A condition, and the place after it. -/
def condition? (c : Cursor) : Option (Condition × Cursor) :=
  (c.skipSpaces.nameAfter? '$').bind fun (name, afterName) =>
    (operator? afterName.skipSpaces).map fun (operator, afterSign) =>
      let (value, next) := afterSign.skipSpaces.span isConditionChar
      (⟨name, operator, Text.trimmed (String.ofList value)⟩, next)

theorem dropPrefix?_length_le {needle text rest : List Char}
    (h : Text.dropPrefix? needle text = some rest) : rest.length ≤ text.length := by
  induction needle generalizing text with
  | nil =>
    simp only [Text.dropPrefix?, Option.some.injEq] at h
    exact Nat.le_of_eq (congrArg List.length h.symm)
  | cons a needle ih =>
    cases text with
    | nil => simp [Text.dropPrefix?] at h
    | cons b text =>
      simp only [Text.dropPrefix?] at h
      split at h
      · exact Nat.le_succ_of_le (ih h)
      · cases h

theorem operator?_length_le {c next : Cursor} {o : Operator}
    (h : operator? c = some (o, next)) : next.rest.length ≤ c.rest.length := by
  unfold operator? at h
  obtain ⟨⟨spelling, p⟩, _, found⟩ := List.exists_of_findSome?_eq_some h
  simp only [Option.map_eq_some_iff, Prod.mk.injEq] at found
  obtain ⟨rest, dropped, _, same⟩ := found
  rw [← same]
  exact dropPrefix?_length_le dropped

theorem condition?_length_lt {c next : Cursor} {condition : Condition}
    (h : condition? c = some (condition, next)) : next.rest.length < c.rest.length := by
  unfold condition? at h
  cases hn : c.skipSpaces.nameAfter? '$' with
  | none => rw [hn] at h; cases h
  | some named =>
    obtain ⟨name, afterName⟩ := named
    have first := Cursor.nameAfter?_length_lt hn
    rw [hn] at h
    simp only [Option.bind_some] at h
    cases ho : operator? afterName.skipSpaces with
    | none => rw [ho] at h; cases h
    | some signed =>
      obtain ⟨o, afterSign⟩ := signed
      have second := operator?_length_le ho
      rw [ho] at h
      simp only [Option.map_some, Option.some.injEq, Prod.mk.injEq] at h
      have start := c.skipSpaces_length_le
      have middle := afterName.skipSpaces_length_le
      have later := afterSign.skipSpaces_length_le
      have last := afterSign.skipSpaces.span_length_le isConditionChar
      rw [← h.2]
      omega

/-- What follows an opening brace: conditions up to the closing brace, conditions that are not
closed, or something else. -/
inductive Guard (bound : Nat) where
  | conditions (read : Parsed (List Condition) bound)
  | unclosed
  | other

namespace Guard

variable {bound wider : Nat}

def add (condition : Condition) (h : bound ≤ wider) : Guard bound → Guard wider
  | conditions read => conditions ((read.map (condition :: ·)).widen h)
  | unclosed => unclosed
  | other => other

end Guard

def guard (c : Cursor) : Guard c.rest.length :=
  match h : condition? c with
  | none => .other
  | some (condition, next) =>
    have shorter := condition?_length_lt h
    match hc : next.after? ',' with
    | some more =>
      have := Cursor.after?_length hc
      (guard more).add condition (by omega)
    | none =>
      match hb : next.after? '\x7d' with
      | some closed =>
        have := Cursor.after?_length hb
        .conditions ⟨[condition], closed, by omega⟩
      | none => .unclosed
termination_by c.rest.length

/-- A name, a single equals sign and the place after them. -/
def target? (c : Cursor) : Option (String × Cursor) :=
  c.name?.bind fun (name, next) => (next.skipSpaces.assigned?).map (name, ·)

theorem target?_length_lt {c next : Cursor} {name : String} (h : target? c = some (name, next)) :
    next.rest.length < c.rest.length := by
  unfold target? at h
  cases hn : c.name? with
  | none => rw [hn] at h; cases h
  | some named =>
    obtain ⟨found, mid⟩ := named
    have first := Cursor.name?_length_lt hn
    rw [hn] at h
    simp only [Option.bind_some] at h
    cases ha : mid.skipSpaces.assigned? with
    | none => rw [ha] at h; cases h
    | some after =>
      have second := Cursor.assigned?_length_lt ha
      have spaces := mid.skipSpaces_length_le
      rw [ha] at h
      simp only [Option.map_some, Option.some.injEq, Prod.mk.injEq] at h
      rw [← h.2]
      omega

def signColumn (c : Cursor) : Nat := c.column - 1

/-- A statement on a line of its own takes the line end with it. -/
def afterStatement (column : Nat) (c : Cursor) : Cursor := if column = 0 then c.skipLineEnd else c

theorem afterStatement_length_le (column : Nat) (c : Cursor) :
    (afterStatement column c).rest.length ≤ c.rest.length := by
  unfold afterStatement
  split
  · exact c.skipLineEnd_length_le
  · exact Nat.le_refl _

/-- An assignment of a source, or the ampersand alone, which has been read. -/
def dynamic (stops : List Char) (c : Cursor) : Parsed Node c.rest.length :=
  match h : target? c with
  | none => ⟨.text "&", c, Nat.le_refl _⟩
  | some (name, start) =>
    let isSource (ch : Char) : Bool := ch ≠ '\n' && !stops.contains ch
    { value := .dynamic name (Text.trimmed (String.ofList (start.span isSource).1))
      next := afterStatement (signColumn c) (start.span isSource).2
      within := by
        have first := target?_length_lt h
        have second := start.span_length_le isSource
        have third := afterStatement_length_le (signColumn c) (start.span isSource).2
        omega }

def plain (stops : List Char) (first : Char) (c : Cursor) : Parsed Node c.rest.length :=
  let isPlain (ch : Char) : Bool := !signs.contains ch && !stops.contains ch
  let run := c.span isPlain
  ⟨.text (String.ofList (first :: run.1)), run.2, c.span_length_le isPlain⟩

/-! ### Readers of trees -/

mutual

/-- Nodes up to one of the stops, which is not read. -/
def nodes (stops : List Char) (c : Cursor) : Except ParseError (Parsed Tree c.rest.length) :=
  match h : c.rest with
  | [] => .ok ⟨[], c, Nat.le_of_eq (congrArg List.length h)⟩
  | first :: rest =>
    if stops.contains first then .ok ⟨[], c, Nat.le_of_eq (congrArg List.length h)⟩
    else
      match node stops first ⟨first :: c.before, rest⟩ with
      | .error e => .error e
      | .ok ⟨n, next, within⟩ =>
        have : next.rest.length < c.rest.length := by rw [h]; exact Nat.lt_succ_of_le within
        match nodes stops next with
        | .error e => .error e
        | .ok more =>
          .ok ((more.map (Tree.cons n)).widen (by rw [h] at this; exact Nat.le_of_lt this))
termination_by 6 * c.rest.length + 1
decreasing_by
  · rw [h, List.length_cons]; omega
  · omega

def node (stops : List Char) (first : Char) (c : Cursor) :
    Except ParseError (Parsed Node c.rest.length) :=
  match first with
  | '\n' => .ok ⟨.newline, c, Nat.le_refl _⟩
  | '$' => dollar stops c
  | '&' => .ok (dynamic stops c)
  | '(' => parens c
  | '\x7b' => braces stops c
  | ')' => .ok ⟨.text ")", c, Nat.le_refl _⟩
  | '|' => .ok ⟨.text "|", c, Nat.le_refl _⟩
  | first => .ok (plain stops first c)
termination_by 6 * c.rest.length + 5

/-- A symbol with its transforms, an assignment to the end of the line, or the dollar sign alone,
which has been read. -/
def dollar (stops : List Char) (c : Cursor) : Except ParseError (Parsed Node c.rest.length) :=
  match ht : target? c with
  | some (name, equals) =>
    have first := target?_length_lt ht
    have second := equals.skipSpaces_length_le
    match nodes ('\n' :: stops) equals.skipSpaces with
    | .error e => .error e
    | .ok ⟨value, next, within⟩ =>
      let column := signColumn c
      .ok ⟨.assign name value.trim column false [], afterStatement column next, by
        have third := afterStatement_length_le column next
        omega⟩
  | none =>
    match hn : c.name? with
    | some (name, next) =>
      have first := Cursor.name?_length_lt hn
      .ok (((chain next).map (.symbol name)).widen (Nat.le_of_lt first))
    | none => .ok ⟨.text "$", c, Nat.le_refl _⟩
termination_by 6 * c.rest.length

/-- An assignment within a line, alternatives, or a pair of parentheses with nothing in it. The
opening parenthesis has been read. -/
def parens (c : Cursor) : Except ParseError (Parsed Node c.rest.length) :=
  match he : c.after? ')' with
  | some closed => .ok ⟨.text "()", closed, by have := Cursor.after?_length he; omega⟩
  | none =>
    match hd : c.skipSpaces.after? '$' with
    | some sign =>
      match ht : target? sign with
      | some (name, equals) =>
        have spaces := c.skipSpaces_length_le
        have first := Cursor.after?_length hd
        have second := target?_length_lt ht
        have third := equals.skipSpaces_length_le
        match nodes [')'] equals.skipSpaces with
        | .error e => .error e
        | .ok ⟨value, next, within⟩ =>
          match hc : next.after? ')' with
          | none => .error (.unclosed '(' (c.position - 1))
          | some closed =>
            have fourth := Cursor.after?_length hc
            .ok (((chain closed).map (.assign name value.trim c.skipSpaces.column true)).widen
              (by omega))
      | none => choice c
    | none => choice c
termination_by 6 * c.rest.length + 4

def choice (c : Cursor) : Except ParseError (Parsed Node c.rest.length) :=
  match alternatives (c.position - 1) c with
  | .error e => .error e
  | .ok ⟨found, next, within⟩ => .ok (((chain next).map (.choice found)).widen within)
termination_by 6 * c.rest.length + 3

def alternatives (opening : Nat) (c : Cursor) :
    Except ParseError (Parsed (List Alternative) c.rest.length) :=
  match nodes ['|', ')'] c with
  | .error e => .error e
  | .ok ⟨tree, next, within⟩ =>
    let found := Alternative.ofTree tree
    match hb : next.after? '|' with
    | some start =>
      have := Cursor.after?_length hb
      match alternatives opening start with
      | .error e => .error e
      | .ok more => .ok ((more.map (found :: ·)).widen (by omega))
    | none =>
      match hc : next.after? ')' with
      | some closed => .ok ⟨[found], closed, by have := Cursor.after?_length hc; omega⟩
      | none => .error (.unclosed '(' opening)
termination_by 6 * c.rest.length + 2

/-- Conditions and the node that they guard, if there is one on the same line, or the brace alone,
which has been read. -/
def braces (stops : List Char) (c : Cursor) : Except ParseError (Parsed Node c.rest.length) :=
  match guard c with
  | .other => .ok ⟨.text "\x7b", c, Nat.le_refl _⟩
  | .unclosed => .error (.unclosed '\x7b' (c.position - 1))
  | .conditions ⟨conditions, closed, within⟩ =>
    have inside : closed.skipSpaces.rest.length ≤ c.rest.length :=
      Nat.le_trans closed.skipSpaces_length_le within
    match h : closed.skipSpaces.rest with
    | [] => .ok ⟨.guarded conditions [], closed.skipSpaces, inside⟩
    | first :: rest =>
      if first = '\n' ∨ stops.contains first then
        .ok ⟨.guarded conditions [], closed.skipSpaces, inside⟩
      else
        have shorter : rest.length < c.rest.length := by
          rw [h] at inside
          exact inside
        match node stops first ⟨first :: closed.skipSpaces.before, rest⟩ with
        | .error e => .error e
        | .ok body => .ok ((body.map fun n => .guarded conditions [n]).widen (Nat.le_of_lt shorter))
termination_by 6 * c.rest.length

end

def Tree.ofText? (text : String) : Except ParseError Tree :=
  match nodes [] (Cursor.start text) with
  | .ok read => .ok read.value
  | .error e => .error e

end TextGen.Script
