import Mathlib
import TextGen.Proofs.Script.Reading
import TextGen.Proofs.Text.Occurrences

/-! What is seen behind a sign.
The readers that make no trees take some characters and go by nothing but the text that is left. So
what they find behind a sign can be compared for two texts, wherever the sign stands. -/
namespace TextGen.Script

/-- A reader that takes some characters and goes by nothing but what is left. -/
def IsScan {α : Type} (read : Cursor → Option (α × Cursor)) : Prop :=
  ∀ b rest v next, read ⟨b, rest⟩ = some (v, next) →
    ∃ taken, rest = taken ++ next.rest ∧
      ∀ b', read ⟨b', rest⟩ = some (v, ⟨taken.reverse ++ b', next.rest⟩)

/-- The same place of a text that has another beginning. -/
def Moved (b text : List Char) (c c' : Cursor) : Prop :=
  ∃ taken, text = taken ++ c.rest ∧ c' = ⟨taken.reverse ++ b, c.rest⟩

theorem tracks_moved (b text : List Char) : Tracks [] (Moved b text) where
  signs := List.nil_subset _
  span := by
    rintro ⟨b₀, rest⟩ _ ⟨taken, whole, rfl⟩ test _
    refine ⟨rfl, taken ++ rest.takeWhile test, ?_, ?_⟩
    · rw [List.append_assoc, Cursor.span, List.takeWhile_append_dropWhile, whole]
    · simp [Cursor.span]
  after? := by
    rintro ⟨b₀, rest⟩ _ ⟨taken, whole, rfl⟩ sign _
    cases rest with
    | nil => exact .none
    | cons x rest =>
      simp only [Cursor.after?]
      split
      · exact .some ⟨taken ++ [x], by simp [whole], by simp⟩
      · exact .none

section

variable {α : Type} {read : Cursor → Option (α × Cursor)}

theorem IsScan.of_tracks
    (alike : ∀ {R : Cursor → Cursor → Prop}, Tracks [] R → ∀ {c c' : Cursor}, R c c' →
      AlikeReading R (read c) (read c')) : IsScan read := by
  intro b rest v next found
  have elsewhere : ∀ b', ∃ taken, rest = taken ++ next.rest ∧
      read ⟨b', rest⟩ = some (v, ⟨taken.reverse ++ b', next.rest⟩) := by
    intro b'
    have start : Moved b' rest ⟨b, rest⟩ ⟨b', rest⟩ := ⟨[], rfl, rfl⟩
    obtain ⟨_, found', taken, whole, rfl⟩ := (alike (tracks_moved b' rest) start).exists_some found
    exact ⟨taken, whole, found'⟩
  obtain ⟨taken, whole, _⟩ := elsewhere b
  refine ⟨taken, whole, fun b' => ?_⟩
  obtain ⟨taken', whole', found'⟩ := elsewhere b'
  rw [List.append_cancel_right (whole.symm.trans whole')]
  exact found'

theorem IsScan.eq_none (scan : IsScan read) {b b' rest : List Char} (none : read ⟨b, rest⟩ = none) :
    read ⟨b', rest⟩ = .none := by
  cases found : read ⟨b', rest⟩ with
  | none => rfl
  | some r =>
    obtain ⟨_, _, anywhere⟩ := scan b' rest r.1 r.2 found
    cases none.symm.trans (anywhere b)

end

/-- What follows an opening brace, if conditions do: these conditions, or none if they are not
closed. -/
def conditions? (c : Cursor) : Option (Option (List Condition) × Cursor) :=
  match guard c with
  | .conditions read => some (some read.value, read.next)
  | .unclosed => some (none, c)
  | .other => none

theorem conditions?_of_comma {c mid more : Cursor} {k : Condition}
    (read : condition? c = some (k, mid)) (comma : mid.after? ',' = some more) :
    conditions? c = (conditions? more).map fun r =>
      match r.1 with
      | some ks => (some (k :: ks), r.2)
      | none => (none, c) := by
  obtain ⟨le, whole⟩ := guard_of_comma read comma
  rw [conditions?, whole, conditions?]
  cases guard more <;> rfl

theorem conditions?_of_last {c mid : Cursor} {k : Condition}
    (read : condition? c = some (k, mid)) (comma : mid.after? ',' = none) :
    conditions? c = some (match mid.after? '\x7d' with
      | some closed => (some [k], closed)
      | none => (none, c)) := by
  cases brace : mid.after? '\x7d' with
  | some closed =>
    obtain ⟨le, whole⟩ := guard_of_brace read comma brace
    rw [conditions?, whole]
  | none => rw [conditions?, guard_eq_unclosed read comma brace]

theorem conditions?_eq_none {c : Cursor} (read : condition? c = none) : conditions? c = none := by
  rw [conditions?, guard_of_condition?_eq_none read]

theorem conditions?_eq_none_iff {c : Cursor} : conditions? c = none ↔ guard c = .other := by
  unfold conditions?
  cases guard c <;> simp

theorem conditions?_eq_some_iff {c next : Cursor} {ks : List Condition} :
    conditions? c = some (some ks, next) ↔
      ∃ r, guard c = .conditions r ∧ r.value = ks ∧ r.next = next := by
  unfold conditions?
  cases guard c <;> simp

/- What no sign bars. -/

namespace Tracks

variable {R : Cursor → Cursor → Prop} {c c' : Cursor}

theorem chain (f : Tracks [] R) (h : R c c') :
    (Script.chain c').value = (Script.chain c).value ∧
      R (Script.chain c).next (Script.chain c').next :=
  rel_chain (fun _ _ => f.segment?_of_free List.not_mem_nil List.not_mem_nil) h

theorem guard (f : Tracks [] R) (h : R c c') : SameGuard R (Script.guard c) (Script.guard c') := by
  refine rel_guard f (P := fun _ => True) (fun c c' related _ => ?_)
    (fun _ _ _ _ _ _ _ => trivial) h trivial
  exact f.condition? related List.not_mem_nil (fun _ _ => List.forall_mem_nil _)
    fun n n' ends _ => f.span ends (List.forall_mem_nil _)

theorem conditions? (f : Tracks [] R) (h : R c c') :
    AlikeReading R (Script.conditions? c) (Script.conditions? c') := by
  have same := f.guard h
  unfold Script.conditions?
  generalize Script.guard c = g at same ⊢
  generalize Script.guard c' = g' at same ⊢
  cases same with
  | conditions value next => exact .some ⟨congrArg some value, next⟩
  | unclosed => exact .some ⟨rfl, h⟩
  | other => exact .none

end Tracks

/- Signs. -/

/-- What a sign begins, as far as no tree is read for it. -/
inductive Sight where
  | target (name : String)
  | symbol (name : String) (chain : Chain)
  | transforms (chain : Chain)
  | conditions (found? : Option (List Condition))
deriving DecidableEq

def symbol? (c : Cursor) : Option ((String × Chain) × Cursor) :=
  c.name?.map fun (name, next) => ((name, (chain next).value), (chain next).next)

def sight? (sign : Char) (c : Cursor) : Option (Sight × Cursor) :=
  match sign with
  | '$' =>
    ((target? c).map fun r => (.target r.1, r.2)).or
      ((symbol? c).map fun r => (.symbol r.1.1 r.1.2, r.2))
  | '&' => (target? c).map fun r => (.target r.1, r.2)
  | '(' => (inlineTarget? c).map fun r => (.target r.1, r.2)
  | ')' => some (.transforms (chain c).value, (chain c).next)
  | '\x7b' => (conditions? c).map fun r => (.conditions r.1, r.2)
  | _ => none

section

variable {R : Cursor → Cursor → Prop} {c c' : Cursor}

theorem Tracks.symbol? (f : Tracks [] R) (h : R c c') :
    AlikeReading R (Script.symbol? c) (Script.symbol? c') := by
  refine rel_map (f.name? h) fun read read' same => ?_
  have chained := f.chain same.2
  exact ⟨Prod.ext same.1 chained.1.symm, chained.2⟩

theorem Tracks.sight? (f : Tracks [] R) (sign : Char) (h : R c c') :
    AlikeReading R (Script.sight? sign c) (Script.sight? sign c') := by
  have targeted := (f.target? h).map Sight.target
  unfold Script.sight?
  split
  · exact rel_or targeted ((f.symbol? h).map fun r => Sight.symbol r.1 r.2)
  · exact targeted
  · exact (f.inlineTarget? h List.not_mem_nil).map Sight.target
  · exact .some ((f.chain h).imp_left fun same => congrArg Sight.transforms same.symm)
  · exact (f.conditions? h).map Sight.conditions
  · exact .none

end

namespace IsScan

theorem span (test : Char → Bool) : IsScan fun c => some (c.span test) :=
  .of_tracks fun f _ _ h => .some ((f.span h (List.forall_mem_nil _)).imp_left Eq.symm)

theorem after? (sign : Char) : IsScan fun c => (c.after? sign).map ((), ·) :=
  .of_tracks fun f _ _ h => rel_map (f.after? h List.not_mem_nil) fun _ _ => .intro rfl

theorem name? : IsScan Cursor.name? := .of_tracks fun f _ _ => f.name?

theorem target? : IsScan Script.target? := .of_tracks fun f _ _ => f.target?

theorem inlineTarget? : IsScan Script.inlineTarget? :=
  .of_tracks fun f _ _ h => f.inlineTarget? h List.not_mem_nil

theorem operator? : IsScan Script.operator? :=
  .of_tracks fun f _ _ h => f.operator? h fun _ _ => List.forall_mem_nil _

theorem chain : IsScan fun c => some ((Script.chain c).value, (Script.chain c).next) :=
  .of_tracks fun f _ _ h => .some ((f.chain h).imp_left Eq.symm)

theorem conditions? : IsScan Script.conditions? := .of_tracks fun f _ _ => f.conditions?

theorem sight? (sign : Char) : IsScan (Script.sight? sign) := .of_tracks fun f _ _ => f.sight? sign

end IsScan

/-- Whether the text that follows changes nothing about what is seen behind the signs of a text. A
closing parenthesis counts only within parentheses that are no empty pair. -/
def isSteady (after : List Char) (within : Bool) : List Char → Bool
  | [] => true
  | sign :: rest =>
    (sign = ')' && !within ||
      sight? sign ⟨[], rest ++ after⟩ =
        (sight? sign ⟨[], rest⟩).map fun r => (r.1, ⟨r.2.before, r.2.rest ++ after⟩)) &&
      isSteady after (within || sign = '(' && rest.head? ≠ some ')') rest

section

variable {after text tail : List Char} {within : Bool} {sign : Char}

theorem isSteady_of_within (h : isSteady after true text = true) (within : Bool) :
    isSteady after within text = true := by
  induction text generalizing within with
  | nil => rfl
  | cons c text ih =>
    rw [isSteady, Bool.and_eq_true, Bool.not_true, Bool.and_false, Bool.false_or, Bool.true_or] at h
    rw [isSteady, h.1, ih h.2, Bool.or_true]
    rfl

theorem isSteady_tail (h : isSteady after within (sign :: text) = true) :
    isSteady after within text = true := by
  rw [isSteady, Bool.and_eq_true] at h
  cases within with
  | true => exact h.2
  | false =>
    cases opens : (decide (sign = '(') && decide (text.head? ≠ some ')')) with
    | true =>
      rw [opens] at h
      exact isSteady_of_within h.2 false
    | false =>
      rw [opens] at h
      exact h.2

theorem isSteady_of_suffix (h : isSteady after within text = true) (suffix : tail <:+ text) :
    isSteady after within tail = true := by
  induction text with
  | nil => rwa [List.suffix_nil.mp suffix]
  | cons c text ih =>
    rcases List.suffix_cons_iff.mp suffix with rfl | inside
    · exact h
    · exact ih (isSteady_tail h) inside

theorem isSteady_open (h : isSteady after within ('(' :: text) = true)
    (more : text.head? ≠ some ')') : isSteady after true text = true := by
  rw [isSteady, Bool.and_eq_true] at h
  simpa [more] using h.2

theorem sight?_of_isSteady (h : isSteady after within (sign :: text) = true)
    (looked : sign = ')' → within = true) :
    sight? sign ⟨[], text ++ after⟩ =
      (sight? sign ⟨[], text⟩).map fun r => (r.1, ⟨r.2.before, r.2.rest ++ after⟩) := by
  rw [isSteady, Bool.and_eq_true, Bool.or_eq_true, decide_eq_true_eq] at h
  refine h.1.resolve_left fun shut => ?_
  rw [Bool.and_eq_true, decide_eq_true_eq] at shut
  rw [looked shut.1] at shut
  cases shut.2

theorem isSteady_nil (text : List Char) (within : Bool) : isSteady [] within text = true := by
  induction text generalizing within with
  | nil => rfl
  | cons c text ih =>
    rw [isSteady, ih, Bool.and_true, List.append_nil, Bool.or_eq_true, decide_eq_true_eq]
    simp

end

end TextGen.Script
