import TextGen.Config.Notation
import TextGen.Grammar.Rules
import TextGen.Lexicon.Criteria
import TextGen.Markov.Generate
import TextGen.Script.Evaluation

/-! The settings of the whole library.
They are a record with a section for each kind of generator. What is missing keeps its default. -/
namespace TextGen

structure Config where
  grammar : Grammar.Options := {}
  markov : Markov.Options := {}
  script : Script.Options := {}
  lexicon : Lexicon.SearchOptions := {}
deriving DecidableEq, Repr

namespace Config

inductive Error where
  | unreadable
  | invalid
deriving DecidableEq, Repr

def Error.message : Error → String
  | unreadable => "IO error"
  | invalid => "RON deserialization error"

def extensions : List String := ["unwrap_newtypes", "implicit_some", "unwrap_variant_newtypes"]

/-- The names of extensions, between commas. The first argument bounds their number. -/
def extensionNames? : Nat → List Char → Option (List String × List Char)
  | 0, _ => none
  | limit + 1, text => do
    let (name, after) ← name? text
    if extensions.contains name then
      match sign? ',' after with
      | some next =>
        if next.head?.any isNameChar then
          let (names, after) ← extensionNames? limit next
          some (name :: names, after)
        else some ([name], next)
      | none => some ([name], after)
    else none

/-- The extensions asked for in front of a text, and the text after them. The first argument bounds
the number of times they are asked for. -/
def header? : Nat → List Char → Option (List String × List Char)
  | 0, _ => none
  | limit + 1, text =>
    match skip? text with
    | some ('#' :: rest) => do
      let start ← ['!', '['].foldlM (fun text c => sign? c text) rest
      let opened ← (Text.dropPrefix? "enable".toList start).bind (sign? '(')
      let (names, after) ← extensionNames? (opened.length + 1) opened
      let closed ← [')', ']'].foldlM (fun text c => sign? c text) after
      let (more, body) ← header? limit closed
      some (names ++ more, body)
    | some body => some ([], body)
    | none => none

/-! ### Sections -/

def depthLimit : Nat := 128

def flag? : Reader Bool := fun text =>
  match Text.dropPrefix? "true".toList text, Text.dropPrefix? "false".toList text with
  | some after, _ => some (true, after)
  | none, some after => some (false, after)
  | none, none => none

def searchType? : Reader Lexicon.SearchType := fun text => do
  let (name, after) ← name? text
  match name with
  | "Word" => some (.word, after)
  | "Phones" => some (.phones, after)
  | "Stresses" => some (.stresses, after)
  | _ => none

def field {α β : Type} (read : Reader β) (put : β → α → α) : α → Reader α :=
  fun a text => (read text).map fun (x, after) => (put x a, after)

def grammarFields : Fields Grammar.Options :=
  [("start_rule", field string? fun x o => { o with startRule := x }),
   ("max_iterations", field natural? fun x o => { o with maxIterations := x })]

def markovFields (bare : Bool) : Fields Markov.Options :=
  [("min_length", field natural? fun x o => { o with minLength := x }),
   ("max_length", field natural? fun x o => { o with maxLength := x }),
   ("start_tokens", field (optional? bare (list? string?)) fun x o => { o with startTokens := x }),
   ("max_length_match", field (optional? bare natural?) fun x o => { o with maxLengthMatch := x })]

def scriptFields : Fields Script.Options :=
  [("max_passes", field natural? fun x o => { o with maxPasses := x }),
   ("silent", field flag? fun x o => { o with silent := x }),
   ("trace", field flag? fun x o => { o with trace := x })]

def lexiconFields (bare : Bool) : Fields Lexicon.SearchOptions :=
  [("min_length", field (optional? bare natural?) fun x o => { o with minLength := x }),
   ("max_length", field (optional? bare natural?) fun x o => { o with maxLength := x }),
   ("num_syllables", field (optional? bare natural?) fun x o => { o with numSyllables := x }),
   ("limit", field (optional? bare natural?) fun x o => { o with limit := x }),
   ("min_distance", field natural? fun x o => { o with minDistance := x }),
   ("pos", field (optional? bare string?) fun x o => { o with pos := x }),
   ("search_type", field searchType? fun x o => { o with searchType := x }),
   ("match_spelling", field flag? fun x o => { o with matchSpelling := x }),
   ("silent", field flag? fun x o => { o with silent := x })]

/-- A section. It stands two levels deep in the whole, and its fields four. -/
def section? {α : Type} (bare : Bool) (name : String) (fields : Fields α) (start : α) : Reader α :=
  record? name fields (skipValue? bare (depthLimit - 4)) start

def configFields (bare : Bool) : Fields Config :=
  [("grammar", field (section? bare "GrammarOptions" grammarFields {}) fun x c =>
      { c with grammar := x }),
   ("markov", field (section? bare "GenerateOptions" (markovFields bare) {}) fun x c =>
      { c with markov := x }),
   ("script", field (section? bare "ScriptOptions" scriptFields {}) fun x c =>
      { c with script := x }),
   ("lexicon", field (section? bare "SearchOptions" (lexiconFields bare) {}) fun x c =>
      { c with lexicon := x })]

/-- The settings of the whole library. The flag says that a value that may be absent can stand
without a mark. -/
def config? (bare : Bool) : Reader Config :=
  record? "ToolkitConfig" (configFields bare) (skipValue? bare (depthLimit - 2)) {}

def ofText? (text : String) : Except Error Config :=
  let read := do
    let (names, body) ← header? (text.length + 1) text.toList
    let (config, rest) ← config? (names.contains "implicit_some") body
    if skip? rest = some [] then some config else none
  match read with
  | some c => .ok c
  | none => .error .invalid

/-- The settings of a file; `none` stands for a file that cannot be read. -/
def load? (contents : Option String) : Except Error Config :=
  match contents with
  | some text => ofText? text
  | none => .error .unreadable

end Config

end TextGen
