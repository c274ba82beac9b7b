import Mathlib

/-! Maps whose keys keep their order.
A key stays at the place where it was first put until it is erased, whatever becomes of its
value. -/
namespace TextGen

@[ext]
structure OrderedMap (α β : Type) where
  entries : List (α × β)
  distinct : (entries.map Prod.fst).Nodup

namespace OrderedMap

variable {α β : Type}

def keys (m : OrderedMap α β) : List α := m.entries.map Prod.fst

instance : EmptyCollection (OrderedMap α β) := ⟨[], List.nodup_nil⟩

variable [DecidableEq α]

def get? (m : OrderedMap α β) (key : α) : Option β :=
  (m.entries.find? fun e => e.1 = key).map Prod.snd

def change (key : α) (f : β → β) (e : α × β) : α × β := if e.1 = key then (e.1, f e.2) else e

@[simp] theorem change_fst (key : α) (f : β → β) (e : α × β) : (change key f e).1 = e.1 := by
  unfold change
  split
  · rfl
  · rfl

/-- Changes the value of a key in its place. A key that is not there is put behind all others, with
the changed starting value. -/
def update (m : OrderedMap α β) (key : α) (start : β) (f : β → β) : OrderedMap α β :=
  if inside : key ∈ m.keys then
    { entries := m.entries.map (change key f)
      distinct := by simpa [Function.comp_def] using m.distinct }
  else
    { entries := m.entries ++ [(key, f start)]
      distinct := by
        rw [List.map_append]
        exact m.distinct.append (List.nodup_singleton _) (by simpa [keys] using inside) }

def put (m : OrderedMap α β) (key : α) (value : β) : OrderedMap α β :=
  m.update key value fun _ => value

def erase (m : OrderedMap α β) (key : α) : OrderedMap α β where
  entries := m.entries.filter fun e => e.1 ≠ key
  distinct := m.distinct.sublist (List.filter_sublist.map _)

variable (m : OrderedMap α β) (key : α) (start : β) (f : β → β)

theorem entries_update : (m.update key start f).entries =
    if key ∈ m.keys then m.entries.map (change key f) else m.entries ++ [(key, f start)] := by
  unfold update
  split
  · rfl
  · rfl

theorem keys_update :
    (m.update key start f).keys = if key ∈ m.keys then m.keys else m.keys ++ [key] := by
  rw [keys, entries_update]
  split
  · simp [keys, Function.comp_def]
  · simp [keys]

theorem get?_eq_none (outside : key ∉ m.keys) : m.get? key = none := by
  simp only [get?, Option.map_eq_none_iff, List.find?_eq_none, decide_eq_true_eq]
  rintro e mem rfl
  exact outside (List.mem_map_of_mem mem)

theorem get?_update (other : α) : (m.update key start f).get? other =
    if other = key then some (f ((m.get? key).getD start)) else m.get? other := by
  by_cases inside : key ∈ m.keys
  · have changed : (m.update key start f).get? other =
        (m.entries.find? fun e => e.1 = other).map fun e => (change key f e).2 := by
      rw [get?, entries_update, if_pos inside, List.find?_map, Option.map_map]
      simp [Function.comp_def]
    rw [changed, get?]
    by_cases same : other = key
    · subst same
      obtain ⟨e, mem, own⟩ := List.mem_map.mp inside
      cases found : m.entries.find? fun e => e.1 = other with
      | none => exact absurd own (by simpa using List.find?_eq_none.mp found e mem)
      | some e =>
        have own : e.1 = other := by simpa using List.find?_some found
        simp [change, own]
    · cases found : m.entries.find? fun e => e.1 = other with
      | none => simp [get?, found, same]
      | some e =>
        have own : e.1 = other := by simpa using List.find?_some found
        simp [get?, found, change, own, same]
  · have behind : (m.update key start f).get? other =
        (m.get? other).or (if other = key then some (f start) else none) := by
      rw [get?, entries_update, if_neg inside, List.find?_append, Option.map_or, get?]
      by_cases same : other = key
      · simp [same]
      · simp [Ne.symm same, same]
    rw [behind, get?_eq_none m key inside]
    by_cases same : other = key
    · subst same
      simp [get?_eq_none m other inside]
    · simp [same]

theorem get?_of_mem {e : α × β} (mem : e ∈ m.entries) : m.get? e.1 = some e.2 := by
  unfold get?
  cases found : m.entries.find? fun other => other.1 = e.1 with
  | none =>
    have absent := List.find?_eq_none.mp found e mem
    simp at absent
  | some other =>
    have same : other.1 = e.1 := by simpa using List.find?_some found
    have equal := List.inj_on_of_nodup_map m.distinct (List.mem_of_find?_eq_some found) mem same
    rw [Option.map_some, equal]

theorem update_eq_self {key : α} {start : β} {f : β → β} (inside : key ∈ m.keys)
    (same : f ((m.get? key).getD start) = (m.get? key).getD start) :
    m.update key start f = m := by
  apply OrderedMap.ext
  rw [entries_update, if_pos inside, List.map_congr_left, List.map_id]
  intro e mem
  unfold change
  split
  · next own =>
    subst own
    rw [m.get?_of_mem mem] at same
    exact Prod.ext rfl same
  · rfl

theorem eraseDups_of_nodup {items : List α} (distinct : items.Nodup) :
    items.eraseDups = items := by
  induction items with
  | nil => rfl
  | cons x items ih =>
    obtain ⟨outside, distinct⟩ := List.nodup_cons.mp distinct
    have others : items.filter (fun y => !y == x) = items := by
      rw [List.filter_eq_self]
      rintro y mem
      have apart : y ≠ x := fun same => outside (same ▸ mem)
      simp [apart]
    rw [List.eraseDups_cons, others, ih distinct]

theorem keys_foldl_update {γ : Type} (key : γ → α) (start : γ → β) (f : γ → β → β)
    (items : List γ) :
    (items.foldl (fun m x => m.update (key x) (start x) (f x)) m).keys =
      (m.keys ++ items.map key).eraseDups := by
  induction items generalizing m with
  | nil =>
    have own : m.keys.eraseDups = m.keys := eraseDups_of_nodup m.distinct
    simp [own]
  | cons x items ih =>
    rw [List.foldl_cons, ih, keys_update, List.map_cons]
    split
    · next inside => simp [List.eraseDups_append, List.removeAll, inside]
    · simp

theorem get?_foldl_update {γ : Type} (key : γ → α) (start : β) (f : γ → β → β) (items : List γ)
    (other : α) :
    ((items.foldl (fun m x => m.update (key x) start (f x)) m).get? other).getD start =
      (items.filter fun x => key x = other).foldl (fun b x => f x b)
        ((m.get? other).getD start) := by
  induction items generalizing m with
  | nil => rfl
  | cons x items ih =>
    rw [List.foldl_cons, ih, get?_update]
    by_cases same : key x = other
    · simp [same]
    · simp [same, Ne.symm same]

theorem update_eq_self_of_foldl {γ : Type} {key : γ → α} {start : β} {f : γ → β → β}
    {items : List γ} (distinct : (items.map key).Nodup)
    (unchanged : items.foldl (fun m x => m.update (key x) start (f x)) m = m) :
    ∀ x ∈ items, m.update (key x) start (f x) = m := by
  intro x mem
  have inside : key x ∈ m.keys := by
    have names := m.keys_foldl_update key (fun _ => start) f items
    rw [unchanged] at names
    rw [names, List.mem_eraseDups]
    exact List.mem_append_right _ (List.mem_map_of_mem mem)
  have only : items.filter (fun y => key y = key x) = [x] := by
    obtain ⟨before, behind, rfl⟩ := List.append_of_mem mem
    simp only [List.map_append, List.map_cons, List.nodup_append, List.nodup_cons] at distinct
    obtain ⟨-, ⟨outside, -⟩, apart⟩ := distinct
    have none_before : before.filter (fun y => key y = key x) = [] := by
      rw [List.filter_eq_nil_iff]
      intro y mem
      simpa using apart (key y) (List.mem_map_of_mem mem) (key x) List.mem_cons_self
    have none_behind : behind.filter (fun y => key y = key x) = [] := by
      rw [List.filter_eq_nil_iff]
      intro y mem same
      apply outside
      rw [← of_decide_eq_true same]
      exact List.mem_map_of_mem mem
    rw [List.filter_append, List.filter_cons_of_pos (by simp), none_before, none_behind]
    rfl
  have value := m.get?_foldl_update key start f items (key x)
  rw [unchanged, only] at value
  exact m.update_eq_self inside value.symm

theorem entries_eq (start : β) :
    m.entries = m.keys.map fun key => (key, (m.get? key).getD start) := by
  have own : ∀ e ∈ m.entries, (e.1, (m.get? e.1).getD start) = e := by
    intro e mem
    simp [m.get?_of_mem mem]
  have same := List.map_congr_left own
  rw [List.map_id'] at same
  rw [keys, List.map_map]
  exact same.symm

theorem eq_of_get? {m n : OrderedMap α β} (start : β) (keys : m.keys = n.keys)
    (values : ∀ key, (m.get? key).getD start = (n.get? key).getD start) : m = n := by
  apply OrderedMap.ext
  rw [m.entries_eq start, n.entries_eq start, keys]
  apply List.map_congr_left
  intro key _
  exact congrArg (Prod.mk key) (values key)

theorem keys_foldl_update_of_mem {γ : Type} (key : γ → α) (start : γ → β) (f : γ → β → β)
    {items : List γ} (inside : ∀ x ∈ items, key x ∈ m.keys) :
    (items.foldl (fun m x => m.update (key x) (start x) (f x)) m).keys = m.keys := by
  induction items generalizing m with
  | nil => rfl
  | cons x items ih =>
    have same : (m.update (key x) (start x) (f x)).keys = m.keys := by
      rw [keys_update, if_pos (inside x List.mem_cons_self)]
    rw [List.foldl_cons, ih, same]
    intro y mem
    rw [same]
    exact inside y (List.mem_cons_of_mem x mem)

/-- Updates that are made again change nothing if they change no value when they are made again. -/
theorem foldl_update_again {γ : Type} (key : γ → α) (start : β) (f : γ → β → β) (items : List γ)
    (again : ∀ other b, let own := items.filter fun x => key x = other
      own.foldl (fun b x => f x b) (own.foldl (fun b x => f x b) b) =
        own.foldl (fun b x => f x b) b) :
    let once := items.foldl (fun m x => m.update (key x) start (f x)) m
    items.foldl (fun m x => m.update (key x) start (f x)) once = once := by
  intro once
  have inside : ∀ x ∈ items, key x ∈ once.keys := by
    intro x mem
    rw [m.keys_foldl_update key (fun _ => start) f items, List.mem_eraseDups]
    exact List.mem_append_right _ (List.mem_map_of_mem mem)
  apply eq_of_get? start
  · exact once.keys_foldl_update_of_mem key (fun _ => start) f inside
  · intro other
    rw [get?_foldl_update, get?_foldl_update]
    exact again other _

end OrderedMap

end TextGen
