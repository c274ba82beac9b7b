import TextGen.Number.Double

/-! A source of random words and the draws made from it.
A source is a value: every draw returns what it drew together with the source that is left, so two
runs from equal sources are equal. Words that are queued come first, then those of a SplitMix64
generator. A draw by weight fails if the weights have no finite sum, and then whatever has asked for
it breaks off too. Nothing here says how likely a result is. -/
namespace TextGen

/-- Why a call does not come to its end: weights have no finite sum, or an order is tried for
ever. -/
inductive Failure where
  | overflow
  | endless
deriving DecidableEq, Repr

/-- A result, if no draw has failed, and the state that is left. -/
abbrev Drawn (σ α : Type) := Except Failure α × σ

namespace Drawn

variable {σ α β : Type}

def done (x : α × σ) : Drawn σ α := (.ok x.1, x.2)

/-- Goes on with a result and the state. Nothing comes after a failure. -/
def andThen (x : Drawn σ α) (f : α → σ → Drawn σ β) : Drawn σ β :=
  match x with
  | (.ok a, s) => f a s
  | (.error e, s) => (.error e, s)

variable {x : Drawn σ α} {f : α → σ → Drawn σ β}

@[simp] theorem andThen_ok (a : α) (s : σ) (f : α → σ → Drawn σ β) :
    Drawn.andThen (.ok a, s) f = f a s := rfl

@[simp] theorem andThen_error (e : Failure) (s : σ) (f : α → σ → Drawn σ β) :
    Drawn.andThen (.error e, s) f = (.error e, s) := rfl

theorem andThen_eq_ok {b : β} {s : σ} :
    x.andThen f = (.ok b, s) ↔ ∃ a s', x = (.ok a, s') ∧ f a s' = (.ok b, s) := by
  match x with
  | (.ok a, s') =>
    constructor
    · exact fun h => ⟨a, s', rfl, h⟩
    · rintro ⟨_, _, same, h⟩
      cases same
      exact h
  | (.error e, s') => simp

theorem andThen_fst_eq_ok {b : β} :
    (x.andThen f).1 = .ok b ↔ ∃ a, x.1 = .ok a ∧ (f a x.2).1 = .ok b := by
  match x with
  | (.ok a, s) => simp
  | (.error e, s) => simp

theorem andThen_snd {P : σ → Prop} (first : P x.2)
    (then_ : ∀ a, x.1 = .ok a → P (f a x.2).2) : P (x.andThen f).2 := by
  match x with
  | (.ok a, s) => exact then_ a rfl
  | (.error e, s) => exact first

end Drawn

/-- Words still queued, and the state of the generator that follows them. -/
structure Source where
  queue : List UInt64
  state : UInt64
deriving DecidableEq, Repr, Inhabited

namespace Source

variable {α : Type}

def ofSeed (seed : UInt64) : Source := ⟨[], seed⟩

/-- The output function of SplitMix64. -/
def scramble (state : UInt64) : UInt64 :=
  let z := (state ^^^ (state >>> 30)) * 0xBF58476D1CE4E5B9
  let z := (z ^^^ (z >>> 27)) * 0x94D049BB133111EB
  z ^^^ (z >>> 31)

def next (s : Source) : UInt64 × Source :=
  match s.queue with
  | w :: rest => (w, { s with queue := rest })
  | [] =>
    let state := s.state + 0x9E3779B97F4A7C15
    (scramble state, { s with state })

/-- A double in `[0, 1)` with 53 random bits. -/
def unit (s : Source) : Float × Source :=
  let (w, s) := s.next
  ((w >>> 11).toFloat / 9007199254740992.0, s)

def upper (width : Nat) (w : UInt64) : Nat := w.toNat >>> (64 - width)

def zone (width n : Nat) : Nat := n * Nat.pow 2 (width - (n.log2 + 1)) - 1

/-- The draws one choice may reject: every queued word, and one whole period of the generator. In a
period the generator yields every word, and the word 0 is accepted, so no choice runs out. -/
def patience (s : Source) : Nat := s.queue.length + UInt64.size

/-- The upper half of the product of a word with `n`, drawn again while the lower half is beyond
the zone. -/
def accept (width n : Nat) : Nat → Source → Nat × Source
  | 0, s => (0, s)
  | tries + 1, s =>
    let (w, rest) := s.next
    let product := upper width w * n
    if product % Nat.pow 2 width ≤ zone width n then (product / Nat.pow 2 width, rest)
    else accept width n tries rest

/-- A number below `n` from words of 64 bits; 0 without a draw when `n` is 0. -/
def below (n : Nat) (s : Source) : Nat × Source :=
  if n = 0 then (0, s) else accept 64 n s.patience s

def index (n : Nat) (s : Source) : Nat × Source :=
  if n = 0 then (0, s) else accept 32 n s.patience s

/-- A uniformly chosen item; nothing is drawn for the empty list. -/
def item? (items : List α) (s : Source) : Option α × Source :=
  match items with
  | [] => (none, s)
  | _ :: _ =>
    let (i, s) := s.index items.length
    (items[i]?, s)

/-- Exchanges each place, from the last down to the second, with a place at or below it. -/
def shuffleFrom (items : Array α) : Nat → Source → Array α × Source
  | 0, s => (items, s)
  | i + 1, s =>
    let (j, s) := s.index (i + 2)
    shuffleFrom (items.swapIfInBounds (i + 1) j) i s

def shuffle (items : List α) (s : Source) : List α × Source :=
  let (shuffled, s) := shuffleFrom items.toArray (items.length - 1) s
  (shuffled.toList, s)

/-- Items in a new order that does not begin with the given one. Orders are tried until there is one,
and none is the result if there never is. -/
def reshuffle [DecidableEq α] (s : Source) (last : Option α) (items : List α) :
    Option (List α × Source) :=
  let (items, s) := s.shuffle items
  if items.head? ≠ last then some (items, s) else s |>.reshuffle last items
partial_fixpoint

def runningSums [Add α] : α → List α → List α
  | total, [] => [total]
  | total, w :: ws => total :: runningSums (total + w) ws

/-- What a fraction below 1 is multiplied by, so that the product is below the total: the total, or
the number before it if the largest fraction of the total is rounded to the total. -/
def reach (total : Float) : Float :=
  if 4503599627370495.0 / 4503599627370496.0 * total < total then total
  else .ofBits (total.toBits - 1)

/-- An index chosen in proportion to the weights. None, without a draw, if there is nothing to
choose from, a weight is negative or not a number, or all weights are zero. The draw fails if the
sum of the weights is not finite. -/
def weightedIndex? (weights : List Float) (s : Source) : Drawn Source (Option Nat) :=
  match weights with
  | [] => (.ok none, s)
  | w :: ws =>
    let sums := runningSums w ws
    let total := sums.getLastD w
    if weights.any (fun x => !(0 ≤ x)) then (.ok none, s)
    else if !Number.isFinite total then (.error .overflow, s)
    else if total == 0 then (.ok none, s)
    else
      let (word, s) := s.next
      let x := (word >>> 12).toFloat / 4503599627370496.0 * reach total
      (.ok (some (sums.dropLast.countP (fun c => c ≤ x))), s)

/-- The nearest number of at most 53 binary digits; of two that are equally near, the even one. -/
def roundToDouble (n : Nat) : Nat :=
  let extra := n.log2 + 1 - 53
  let kept := n >>> extra
  let lost := n % Nat.pow 2 extra
  let half := Nat.pow 2 extra / 2
  let up := extra ≠ 0 ∧ (half < lost ∨ (half = lost ∧ kept % 2 = 1))
  (if up then kept + 1 else kept) <<< extra

/-- `weightedIndex?` for whole weights. All sums are exact; the one rounding is that of the product
of a 52-bit fraction with the total, here scaled by `2 ^ 52`. -/
def countedIndex? (counts : List Nat) (s : Source) : Option Nat × Source :=
  match counts with
  | [] => (none, s)
  | c :: cs =>
    let sums := runningSums c cs
    let total := sums.getLastD c
    if total = 0 then (none, s)
    else
      let (word, s) := s.next
      let x := roundToDouble ((word >>> 12).toNat * total)
      (some (sums.dropLast.countP (fun c => c <<< 52 ≤ x)), s)

end Source

end TextGen
