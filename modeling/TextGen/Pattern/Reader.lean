import TextGen.Number.Decimal
import TextGen.Pattern.Bracket
import TextGen.Pattern.Matching
import TextGen.Pattern.Size

/-! Reading patterns.
Besides alternatives, sequences, repetitions, groups and sets of characters there are flags that
hold to the end of their group, anchors, and escapes for classes and single characters. A text that
is not a pattern gives nothing; looking around and referring back are not part of the language. -/
namespace TextGen.Pattern

/-! ### Openings of groups -/

/-- What stands behind an opening parenthesis. Groups that start with flags are not numbered. -/
inductive Opening where
  | flags (f : Flags)
  | plain (f : Flags)
  | numbered (name : Option (List Char))

def groupName? (text : List Char) : Option (List Char × List Char) :=
  let isFirst (c : Char) : Bool := c = '_' || Unicode.isAlphabetic c
  let isPart (c : Char) : Bool :=
    c = '_' || c = '.' || c = '[' || c = ']' || Unicode.isAlphanumeric c
  match text.takeWhile (· ≠ '>'), text.dropWhile (· ≠ '>') with
  | c :: name, _ :: after =>
    if isFirst c ∧ name.all isPart then some (c :: name, after) else none
  | _, _ => none

def opening? (f : Flags) (text : List Char) : Option (Opening × List Char) :=
  match f.skip text with
  | '?' :: 'P' :: '<' :: rest =>
    (groupName? rest).map fun (name, after) => (.numbered (some name), after)
  | '?' :: '<' :: rest =>
    (groupName? rest).map fun (name, after) => (.numbered (some name), after)
  | '?' :: rest =>
    let isLetter (c : Char) : Bool := c ≠ ':' && c ≠ ')'
    let letters := rest.takeWhile isLetter
    if !Flags.isLetters letters then none
    else match rest.dropWhile isLetter with
      | ':' :: after => some (.plain (f.setAll letters), after)
      | ')' :: after => if letters = [] then none else some (.flags (f.setAll letters), after)
      | _ => none
  | rest => some (.numbered none, rest)

/-! ### Repetitions -/

def count? (f : Flags) (text : List Char) : Option Nat × List Char :=
  let (digits, after) := f.takeWhile Char.isDigit (text.dropWhile Text.isBlank)
  let n := Number.ofDigits digits
  (if digits ≠ [] ∧ n < UInt32.size then some n else none, after.dropWhile Text.isBlank)

/-- The least and the most number of repetitions. The opening brace has been read. -/
def counts? (f : Flags) (text : List Char) : Option ((Nat × Option Nat) × List Char) :=
  match count? f (f.skip text) with
  | (least, ',' :: rest) =>
    match f.skip rest with
    | '\x7d' :: after => least.map fun n => ((n, none), after)
    | start =>
      match least, count? f start with
      | some n, (some m, '\x7d' :: after) => if n ≤ m then some ((n, some m), after) else none
      | _, _ => none
  | (some n, '\x7d' :: after) => some ((n, some n), after)
  | _ => none

/-- A mark of reluctance, which makes no difference to whether a text matches. -/
def reluctance : List Char → List Char
  | '?' :: rest => rest
  | rest => rest

def repetition? (f : Flags) : List Char → Option ((Nat × Option Nat) × List Char)
  | '?' :: rest => some ((0, some 1), reluctance rest)
  | '*' :: rest => some ((0, none), reluctance rest)
  | '+' :: rest => some ((1, none), reluctance rest)
  | '\x7b' :: rest =>
    (counts? f rest).map fun (bounds, after) => (bounds, reluctance (f.skip after))
  | _ => none

/-! ### Whole patterns -/

/-- A part that is not a group: a set, an escape, an anchor, the dot, or a plain character. -/
def primitive? (f : Flags) : List Char → Option (Nested Pattern × List Char)
  | [] => none
  | '[' :: rest => (bracketed? f rest).map fun (s, after) => (⟨ofSet s.value, s.depth⟩, after)
  | '\\' :: rest => (escape? f rest).map fun (atom, after) => (⟨atom.pattern f, 0⟩, after)
  | '.' :: rest => f.dot?.map fun p => (⟨p, 0⟩, rest)
  | '^' :: rest =>
    some (⟨.anchor (if f.multiLine then .lineStart f.crlf else .textStart), 0⟩, rest)
  | '$' :: rest => some (⟨.anchor (if f.multiLine then .lineEnd f.crlf else .textEnd), 0⟩, rest)
  | c :: rest => some (⟨f.literal c, 0⟩, rest)

/-- How deep several parts are nested, one of which does not count as several. -/
def depthOf (parts : List (Option (Nested Pattern))) : Nat :=
  let deepest := (parts.filterMap fun part => part.map (·.depth)).foldl max 0
  if parts.length < 2 then deepest else deepest + 1

/-- Items in sequence, the last one first. An item without a pattern is a setting of flags. -/
def sequenceOf (items : List (Option (Nested Pattern))) : Nested Pattern where
  value := sequence (items.reverse.filterMap fun item => item.map (·.value))
  depth := depthOf items

def choiceOfAll (ps : List (Nested Pattern)) : Nested Pattern :=
  match ps with
  | [p] => p
  | ps => ⟨choice (ps.reverse.map (·.value)), depthOf (ps.map some)⟩

/-- What has been read of the current group: the alternatives that are complete, the items of the
next one, and of the whole pattern the number of numbered groups and the names among them. -/
structure Progress where
  before : List (Nested Pattern) := []
  items : List (Option (Nested Pattern)) := []
  groups : Nat := 0
  names : List (List Char) := []

namespace Progress

def push (g : Progress) (item : Option (Nested Pattern)) : Progress :=
  { g with items := item :: g.items }

def divide (g : Progress) : Progress :=
  { g with before := sequenceOf g.items :: g.before, items := [] }

def whole (g : Progress) : Nested Pattern := choiceOfAll (sequenceOf g.items :: g.before)

end Progress

structure Body (text : List Char) where
  progress : Progress
  rest : List Char
  not_longer : rest.length ≤ text.length

namespace Body

variable {text longer : List Char}

def within (b : Body text) (h : text.length ≤ longer.length) : Body longer :=
  ⟨b.progress, b.rest, Nat.le_trans b.not_longer h⟩

end Body

def body? (f : Flags) (g : Progress) (text : List Char) : Option (Body text) :=
  match h : f.skip text with
  | [] => some ⟨g, [], Nat.zero_le _⟩
  | ')' :: rest => some ⟨g, ')' :: rest, h ▸ f.skip_length_le text⟩
  | '|' :: rest =>
    have : ('|' :: rest).length ≤ text.length := h ▸ f.skip_length_le text
    have : rest.length < text.length := this
    (body? f g.divide rest).map (·.within (by omega))
  | '(' :: rest =>
    match opening? f rest with
    | none => none
    | some (.flags f, after) =>
      if closer : after.length < text.length then
        (body? f (g.push none) after).map (·.within (by omega))
      else none
    | some (.plain inner, start) =>
      if inside : start.length < text.length then
        match body? inner { groups := g.groups, names := g.names } start with
        | none => none
        | some b =>
          match closed : b.rest with
          | ')' :: after =>
            have : (')' :: after).length ≤ start.length := closed ▸ b.not_longer
            have : after.length < text.length := Nat.lt_trans this inside
            let p := b.progress.whole
            let g := { g with groups := b.progress.groups, names := b.progress.names }
            (body? f (g.push (some ⟨p.value, p.depth + 1⟩)) after).map (·.within (by omega))
          | _ => none
      else none
    | some (.numbered name, start) =>
      if name.any g.names.contains then none
      else if inside : start.length < text.length then
        match body? f { groups := g.groups + 1, names := name.toList ++ g.names } start with
        | none => none
        | some b =>
          match closed : b.rest with
          | ')' :: after =>
            have : (')' :: after).length ≤ start.length := closed ▸ b.not_longer
            have : after.length < text.length := Nat.lt_trans this inside
            let p := b.progress.whole
            let p : Nested Pattern := ⟨.group (g.groups + 1) p.value, p.depth + 1⟩
            let g := { g with groups := b.progress.groups, names := b.progress.names }
            (body? f (g.push (some p)) after).map (·.within (by omega))
          | _ => none
      else none
  | rest =>
    match rest.head? with
    | none => none
    | some c =>
      if "?*+\x7b".toList.contains c then
        match repetition? f rest, g.items with
        | some ((least, most), after), some p :: items =>
          if closer : after.length < text.length then
            let p : Nested Pattern := ⟨repetition least most p.value, p.depth + 1⟩
            (body? f { g with items := some p :: items } after).map (·.within (by omega))
          else none
        | _, _ => none
      else
        match primitive? f rest with
        | none => none
        | some (p, after) =>
          if closer : after.length < text.length then
            (body? f (g.push (some p)) after).map (·.within (by omega))
          else none
termination_by text.length

def depthLimit : Nat := 250

def ofText? (text : String) : Option Pattern :=
  match body? {} {} text.toList with
  | some ⟨g, [], _⟩ =>
    let p := g.whole
    if p.depth ≤ depthLimit ∧ p.value.isSmall then some p.value else none
  | _ => none

end TextGen.Pattern
