import TextGen.Markov.Query
import TextGen.Run
import TextGen.Text.Search
import TextGen.Unicode.Property

/-! Generation from a model.
Every token is chosen in proportion to its count after the tokens before it. A choice that falls on
a marker goes on below it. With a limit on copies, a token is refused if together with the tokens
before it it stands in the input of the model. -/
namespace TextGen.Markov

structure Options where
  minLength : Nat := 5
  maxLength : Nat := 35
  startTokens : Option (List String) := none
  maxLengthMatch : Option Nat := none
deriving DecidableEq, Repr

def attempts : Nat := 999

/-- A chosen token and the number of markers on the way to it. -/
structure Pick where
  token : String
  markers : Nat
deriving DecidableEq, Repr

/-- The branch at an index, or a choice below it if it is a marker. -/
def Trie.settle : Trie → Nat → Source → Option Pick × Source
  | empty, _, s => (none, s)
  | branch token _ below _, 0, s =>
    if token = marker then
      match s.countedIndex? below.counts with
      | (none, s) => (none, s)
      | (some i, s) =>
        let (pick, s) := below.settle i s
        (pick.map fun p => { p with markers := p.markers + 1 }, s)
    else (some ⟨token, 0⟩, s)
  | branch _ _ _ beside, i + 1, s => beside.settle i s

def Trie.pick (trie : Trie) (s : Source) : Option Pick × Source :=
  match s.countedIndex? trie.counts with
  | (none, s) => (none, s)
  | (some i, s) => trie.settle i s

def copied? (m : Markov) (history : List String) (limit : Option Nat) (token : String) :
    Option (List String) :=
  match limit with
  | none => none
  | some k =>
    if k ≤ history.length then
      let window := lastItems k history ++ [token]
      if Text.hasRun window m.input then some window else none
    else none

/-- What is left to choose from after a refused pick: a pick below one marker takes this marker with
it, and one below several markers leaves everything. -/
def Trie.without (trie : Trie) (p : Pick) : Trie :=
  match p.markers with
  | 0 => trie.erase p.token
  | 1 => trie.erase marker
  | _ => trie

def refusal (token : String) (window : List String) : String :=
  "rejecting '" ++ token ++ "': copies " ++ Text.quotedList window ++ " from input"

/-- Chooses until a token is not refused. The first argument bounds the choices. -/
def choose (m : Markov) (history : List String) (limit : Option Nat) :
    Nat → Trie → Run → Option String × Run
  | 0, _, r => (none, r)
  | choices + 1, trie, r =>
    match r.draw trie.pick with
    | (none, r) => (none, r)
    | (some p, r) =>
      match m.copied? history limit p.token with
      | none => (some p.token, r)
      | some window =>
        m.choose history limit choices (trie.without p)
          (r.note .trace (refusal p.token window))

/-- A token that may follow. From the same branches as many choices may be refused as the source has
states; after that the choices repeat. -/
def extend? (m : Markov) (limit : Option Nat) (tokens : List String) (r : Run) :
    Option String × Run :=
  match m.search? tokens with
  | none => (none, r)
  | some trie => m.choose tokens limit ((trie.width + 1) * r.source.patience) trie r

def startTokens (m : Markov) (o : Options) (trie : Trie) (r : Run) :
    Except Error (List String) × Run :=
  match o.startTokens.getD [] with
  | [] =>
    let (pick, r) := r.draw trie.pick
    (.ok (pick.map (·.token)).toList, r)
  | start =>
    if (m.search? start).isSome then (.ok start, r) else (.error (.startTokensNotFound start), r)

/-- Adds the given number of tokens, if there is always one that may follow. -/
def fill (m : Markov) (limit : Option Nat) :
    Nat → List String → Run → Option (List String) × Run
  | 0, tokens, r => (some tokens, r)
  | missing + 1, tokens, r =>
    match m.extend? limit tokens r with
    | (none, r) => (none, r)
    | (some token, r) => m.fill limit missing (tokens ++ [token]) r

def gaveUp (o : Options) : Error := .exhausted attempts o.maxLengthMatch.isSome

/-- Starts again after every dead end. The first argument counts the attempts that are left. -/
def tokensFrom (m : Markov) (num : Nat) (o : Options) :
    Nat → Run → Except Error (List String) × Run
  | 0, r => (.error (gaveUp o), r)
  | left + 1, r =>
    match m.startTokens o m.trie r with
    | (.error e, r) => (.error e, r)
    | (.ok start, r) =>
      match m.fill o.maxLengthMatch (num - start.length) start r with
      | (some tokens, r) => (.ok tokens, r)
      | (none, r) => m.tokensFrom num o left r

/-- Generates exactly `num` tokens. -/
def generateTokens (m : Markov) (num : Nat) (o : Options) (r : Run) :
    Except Error (List String) × Run :=
  let start := (o.startTokens.getD []).length
  if num = 0 then (.ok [], r)
  else if num < start then (.error (.startTooLong start num), r)
  else m.tokensFrom num o attempts r

def fillUntil (m : Markov) (limit : Option Nat) (test : String → Bool) :
    Nat → List String → Run → Option (List String) × Run
  | 0, _, r => (none, r)
  | room + 1, tokens, r =>
    match m.extend? limit tokens r with
    | (none, r) => (none, r)
    | (some token, r) =>
      if test token then (some (tokens ++ [token]), r)
      else m.fillUntil limit test room (tokens ++ [token]) r

/-- Seeds of the given length, each continued until a token satisfies the test. The limit on copies
holds for the continuation only. -/
def untilFrom (m : Markov) (test : String → Bool) (seedLength : Nat) (o : Options) :
    Nat → Run → Except Error (List String) × Run
  | 0, r => (.error (gaveUp o), r)
  | left + 1, r =>
    match m.generateTokens seedLength { startTokens := o.startTokens } r with
    | (.error e, r) => (.error e, r)
    | (.ok seed, r) =>
      match m.fillUntil o.maxLengthMatch test (o.maxLength - seed.length) seed r with
      | (some tokens, r) => (.ok tokens, r)
      | (none, r) => m.untilFrom test seedLength o left r

/-- Generates tokens up to one that satisfies the test, which is not applied to the first ones. -/
def generateUntil (m : Markov) (test : String → Bool) (o : Options) (r : Run) :
    Except Error (List String) × Run :=
  let seedLength := max (max o.minLength 1) (o.startTokens.getD []).length
  m.untilFrom test seedLength o attempts r

/-- The text of a sentence, if it may stand beside those before it: it starts with an upper-case
letter, ends like a sentence and is new. -/
def sentence? (m : Markov) (before tokens : List String) (r : Run) : Option String × Run :=
  let text := m.tokenizer.join tokens
  match text.toList with
  | [] => (none, r)
  | first :: rest =>
    if !Unicode.isUppercase first then
      (none, r.note .trace ("skipping: bad first char in '" ++ text ++ "'"))
    else if !Token.enders.contains ((first :: rest).getLastD first) then (none, r)
    else if text ∈ before then
      (none, r.note .debug ("skipping: duplicate sentence '" ++ text ++ "'"))
    else (some text, r)

def attemptSentence (m : Markov) (o : Options) (before start : List String) (r : Run) :
    Option String × Run :=
  let room := o.maxLength - start.length
  match m.fillUntil o.maxLengthMatch Token.endsSentence room start r with
  | (none, r) => (none, r)
  | (some tokens, r) =>
    if tokens.length < o.minLength then (none, r) else m.sentence? before tokens r

/-- The first tokens of a sentence, chosen below the marker unless they are given. -/
def sentenceStart (m : Markov) (o : Options) (starts : Trie) (r : Run) :
    Except Error (List String) × Run :=
  match m.startTokens o starts r with
  | (.ok [], r) => (.error .noSentenceStart, r)
  | other => other

/-- Generates the missing sentences. `spare` failed attempts are allowed; the next one is the
last. -/
def sentencesFrom (m : Markov) (num : Nat) (o : Options) (starts : Trie) (missing spare : Nat)
    (before : List String) (r : Run) : Except Error (List String) × Run :=
  match missing with
  | 0 => (.ok before, r)
  | fewer + 1 =>
    match m.sentenceStart o starts r with
    | (.error e, r) => (.error e, r)
    | (.ok start, r) =>
      match m.attemptSentence o before start r with
      | (some text, r) => m.sentencesFrom num o starts fewer spare (before ++ [text]) r
      | (none, r) =>
        match spare with
        | 0 =>
          (.error (gaveUp o), r.note .debug ("gave up with " ++ toString before.length ++ " of "
            ++ toString num ++ " sentences"))
        | spare + 1 => m.sentencesFrom num o starts (fewer + 1) spare before r
termination_by missing + spare

/-- Generates `num` different sentences. -/
def generateSentences (m : Markov) (num : Nat) (o : Options) (r : Run) :
    Except Error (List String) × Run :=
  match m.trie.child? marker with
  | none => (.error .noSentenceStart, r)
  | some (_, starts) => m.sentencesFrom num o starts num (attempts - 1) [] r

def generateSentence (m : Markov) (o : Options) (r : Run) : Except Error String × Run :=
  match m.generateSentences 1 o r with
  | (.ok (text :: _), r) => (.ok text, r)
  | (.ok [], r) => (.error (gaveUp o), r)
  | (.error e, r) => (.error e, r)

end TextGen.Markov
