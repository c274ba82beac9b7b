import TextGen.Pattern.Escape
import TextGen.Text.Reading

/-! Sets in brackets.
They hold characters, ranges, classes and further sets, and there are operations on the sets to
their left and right. How deep a set is nested is counted along: brackets count, operations count,
and so do several items next to each other. -/
namespace TextGen.Pattern

open TextGen.Text (Reading)
open TextGen.Unicode (Ranges)

/-- A value that was read, and how deep what stands for it is nested. -/
structure Nested (α : Type) where
  value : α
  depth : Nat
deriving Repr

inductive SetOperation where
  | intersection
  | difference
  | symmetricDifference
deriving DecidableEq, Repr

def SetOperation.apply (o : SetOperation) (a b : Ranges) : Ranges :=
  match o with
  | intersection => a.inter b
  | difference => a.diff b
  | symmetricDifference => (a.union b).diff (a.inter b)

/-- Items of a set so far: their ranges, how many there are, and how deep the deepest is. -/
structure Items where
  ranges : List (Nat × Nat) := []
  count : Nat := 0
  depth : Nat := 0

def Items.insert (items : Items) (item : Nested Ranges) : Items where
  ranges := item.value.toList ++ items.ranges
  count := items.count + 1
  depth := max items.depth item.depth

def Items.union (items : Items) : Nested Ranges where
  value := .ofList items.ranges
  depth := if items.count < 2 then items.depth else items.depth + 1

abbrev Pending := Option (Nested Ranges × SetOperation)

def Flags.combine (f : Flags) (left : Pending) (right : Nested Ranges) : Nested Ranges :=
  match left with
  | none => right
  | some (a, o) => ⟨o.apply (f.fold a.value) (f.fold right.value), max a.depth right.depth + 1⟩

/-- A class of ASCII characters between `[:` and `:]`. The opening bracket has been read. -/
def asciiItem? (text : List Char) : Option (Bool × Ranges × List Char) :=
  match text with
  | ':' :: rest =>
    let (negated, rest) := match rest with
      | '^' :: r => (true, r)
      | r => (false, r)
    match rest.dropWhile (· ≠ ':') with
    | ':' :: ']' :: after =>
      (asciiClass? (String.ofList (rest.takeWhile (· ≠ ':')))).map fun set => (negated, set, after)
    | _ => none
  | _ => none

def setAtom? (f : Flags) : List Char → Option (Atom × List Char)
  | [] => none
  | '\\' :: rest => escape? f rest
  | c :: rest => some (.char c, rest)

/-- A character of a set; without Unicode it is one of ASCII. -/
def Flags.member? (f : Flags) (c : Char) : Option Nat :=
  if f.unicode ∨ c.toNat < 128 then some c.toNat else none

def setItem? (f : Flags) (text : List Char) : Option (Ranges × List Char) := do
  let (atom, rest) ← setAtom? f text
  let rest := f.skip rest
  let single := match atom with
    | .char c => (f.member? c).map fun n => (Ranges.single n, rest)
    | .set s => some (s, rest)
    | .anchor _ => none
  match rest with
  | [] => none
  | '-' :: after =>
    if f.peek after = some ']' ∨ f.peek after = some '-' then single
    else do
      let (last, rest) ← setAtom? f (f.skip after)
      match atom, last with
      | .char a, .char b =>
        let a ← f.member? a
        let b ← f.member? b
        if a ≤ b then some (#[(a, b)], rest) else none
      | _, _ => none
  | _ => single

/-- Hyphens at the start of a set stand for themselves, and so does a closing bracket at the very
start. -/
def setStart (f : Flags) (text : List Char) : Items × List Char :=
  match f.takeWhile (· = '-') text with
  | ([], ']' :: rest) => (({} : Items).insert ⟨.single 93, 0⟩, rest)
  | (hyphens, rest) => (hyphens.foldl (fun items _ => items.insert ⟨.single 45, 0⟩) {}, rest)

/-- Whether a set is negated, its first characters, and what follows them. The opening bracket has
been read. -/
def setOpening (f : Flags) (text : List Char) : Bool × Items × List Char :=
  match f.skip text with
  | '^' :: rest => (true, setStart f (f.skip rest))
  | text => (false, setStart f text)

def operation? : List Char → Option (SetOperation × List Char)
  | '&' :: '&' :: rest => some (.intersection, rest)
  | '-' :: '-' :: rest => some (.difference, rest)
  | '~' :: '~' :: rest => some (.symmetricDifference, rest)
  | _ => none

/-- The items of a set up to its closing bracket: the operation that is pending and the items so
far. -/
def setItems? (f : Flags) (left : Pending) (items : Items) (text : List Char) :
    Option (Reading (Nested Ranges) text) :=
  let start := f.skip text
  match operation? start with
  | some (o, rest) =>
    if closer : rest.length < text.length then
      (setItems? f (some (f.combine left items.union, o)) {} rest).map
        (·.within (Nat.le_of_lt closer))
    else none
  | none =>
    match start with
    | [] => none
    | ']' :: rest => Reading.of? text (f.combine left items.union, rest)
    | '[' :: rest =>
      match asciiItem? rest with
      | some (negated, set, after) =>
        match f.complementIf? negated (f.fold set) with
        | none => none
        | some set =>
          if closer : after.length < text.length then
            (setItems? f left (items.insert ⟨set, 0⟩) after).map
              (·.within (Nat.le_of_lt closer))
          else none
      | none =>
        let (negated, first, start) := setOpening f rest
        if inside : start.length < text.length then
          match setItems? f none first start with
          | none => none
          | some ⟨inner, after, shorter⟩ =>
            match f.complementIf? negated (f.fold inner.value) with
            | none => none
            | some set =>
              (setItems? f left (items.insert ⟨set, inner.depth + 1⟩) after).map
                (·.within (by omega))
        else none
    | rest =>
      match setItem? f rest with
      | none => none
      | some (set, after) =>
        if closer : after.length < text.length then
          (setItems? f left (items.insert ⟨set, 0⟩) after).map (·.within (Nat.le_of_lt closer))
        else none
termination_by text.length

def bracketed? (f : Flags) (text : List Char) : Option (Nested Ranges × List Char) := do
  let (negated, first, start) := setOpening f text
  let r ← setItems? f none first start
  let set ← f.complementIf? negated (f.fold r.value.value)
  some (⟨set, r.value.depth + 1⟩, r.rest)

end TextGen.Pattern
