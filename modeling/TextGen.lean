import TextGen.Config.Notation
import TextGen.Config.Sections
import TextGen.EditDistance
import TextGen.Grammar.Expansion
import TextGen.Grammar.Json
import TextGen.Grammar.Production
import TextGen.Grammar.Rules
import TextGen.Json.Reader
import TextGen.Json.Value
import TextGen.Lexicon.Criteria
import TextGen.Lexicon.Entry
import TextGen.Lexicon.RandomWord
import TextGen.Lexicon.Search
import TextGen.Lexicon.Similar
import TextGen.Lexicon.Sound
import TextGen.Lexicon.Table
import TextGen.Markov.Generate
import TextGen.Markov.Model
import TextGen.Markov.Outline
import TextGen.Markov.Query
import TextGen.Markov.Trie
import TextGen.Notice
import TextGen.Number.Decimal
import TextGen.Number.Double
import TextGen.Number.Shortest
import TextGen.Pattern.Basic
import TextGen.Pattern.Bracket
import TextGen.Pattern.Escape
import TextGen.Pattern.Flags
import TextGen.Pattern.Matching
import TextGen.Pattern.NamedSet
import TextGen.Pattern.Reader
import TextGen.Pattern.Size
import TextGen.Random.Source
import TextGen.Run
import TextGen.Script.Choice
import TextGen.Script.Cursor
import TextGen.Script.Evaluation
import TextGen.Script.Node
import TextGen.Script.Operator
import TextGen.Script.Parser
import TextGen.Script.Pass
import TextGen.Script.Transforms
import TextGen.Script.Unfinished
import TextGen.Script.Value
import TextGen.Text.Entity
import TextGen.Text.Quoted
import TextGen.Text.Reading
import TextGen.Text.Search
import TextGen.Text.Split
import TextGen.Token
import TextGen.Unicode.Age
import TextGen.Unicode.Case
import TextGen.Unicode.CaseChange
import TextGen.Unicode.Category
import TextGen.Unicode.Control
import TextGen.Unicode.Emoji
import TextGen.Unicode.GraphemeBreak
import TextGen.Unicode.Identifier
import TextGen.Unicode.Ideograph
import TextGen.Unicode.Modifier
import TextGen.Unicode.Property
import TextGen.Unicode.Punctuation
import TextGen.Unicode.Ranges
import TextGen.Unicode.Script
import TextGen.Unicode.SentenceBreak
import TextGen.Unicode.SharedScript
import TextGen.Unicode.Utf8
import TextGen.Unicode.WordBreak
import TextGen.Word.Letter
import TextGen.Word.Morphology
import TextGen.Word.Plural
import TextGen.Word.Syllable
import TextGen.Word.TitleCase
import TextGen.Proofs.Markov.Training
import TextGen.Proofs.Markov.Window
import TextGen.Proofs.Markov.Counting
import TextGen.Proofs.Markov.Choosing
import TextGen.Proofs.Markov.Attested
import TextGen.Proofs.Markov.Novel
import TextGen.Proofs.Random.Accepting
import TextGen.Proofs.Random.Counted
import TextGen.Proofs.Markov.Steering
import TextGen.Proofs.Markov.Refusal
import TextGen.Proofs.Markov.Effort
import TextGen.Proofs.Markov.Returning
import TextGen.Proofs.Script.Grammar
import TextGen.Proofs.Script.Literal
import TextGen.Proofs.Script.Reemission
import TextGen.Proofs.Script.Places
import TextGen.Proofs.Script.PhraseReading
import TextGen.Proofs.Script.Rejected
import TextGen.Proofs.Json.Reading
import TextGen.Proofs.Grammar.OrderedMap
import TextGen.Proofs.Grammar.Index
import TextGen.Proofs.Grammar.Calls
import TextGen.Proofs.Grammar.Refinement
import TextGen.Proofs.Grammar.Failure
import TextGen.Proofs.Text.Occurrences
import TextGen.Proofs.Text.Decoding
import TextGen.Proofs.Text.DecodingOnce
import TextGen.Proofs.Grammar.References
import TextGen.Proofs.Grammar.Stopping
import TextGen.Proofs.Grammar.Brackets
import TextGen.Proofs.Grammar.Expanding
import TextGen.Proofs.Markov.Totals
import TextGen.Proofs.Markov.Shares
import TextGen.Proofs.Token.Joining
import TextGen.Proofs.Token.Conserving
import TextGen.Proofs.Token.Sentences
import TextGen.Proofs.Script.Rereading
import TextGen.Proofs.Markov.Seeds
import TextGen.Proofs.Lexicon.Rhyming
import TextGen.Proofs.Lexicon.Alliterating
import TextGen.Proofs.Lexicon.Answers
import TextGen.Proofs.Lexicon.Similarity
import TextGen.Proofs.EditDistance.Rows
import TextGen.Proofs.Script.Outcomes
import TextGen.Proofs.Script.Depth
import TextGen.Proofs.Markov.Contexts
import TextGen.Proofs.Markov.Ranking
import TextGen.Proofs.Markov.Completions
import TextGen.Proofs.Markov.Outcomes
import TextGen.Proofs.Markov.Sentences
import TextGen.Proofs.Markov.Ending
import TextGen.Proofs.Markov.CopyLimit
import TextGen.Proofs.Markov.Reordering
import TextGen.Proofs.Markov.GivingUp
import TextGen.Proofs.Script.Inline
import TextGen.Proofs.Script.Bindings
import TextGen.Proofs.Script.Chained
import TextGen.Proofs.Script.Chosen
import TextGen.Proofs.Script.Guards
import TextGen.Proofs.Script.Statements
import TextGen.Proofs.Script.Targets
import TextGen.Proofs.Script.Verbatim
import TextGen.Proofs.Script.Conditions
import TextGen.Proofs.Script.Exchange
import TextGen.Proofs.Script.Sources
import TextGen.Proofs.Script.Resetting
import TextGen.Proofs.Script.Rounds
import TextGen.Proofs.Script.Candidates
import TextGen.Proofs.Script.Comparing
import TextGen.Proofs.Grammar.Derivations
import TextGen.Proofs.Grammar.Warnings
import TextGen.Proofs.Grammar.Complete
import TextGen.Proofs.Grammar.Repeating
import TextGen.Proofs.Grammar.RuleText
import TextGen.Proofs.Lexicon.Limits
import TextGen.Proofs.Lexicon.Phonemes
import TextGen.Proofs.Lexicon.Stresses
import TextGen.Proofs.Pattern.Plain
import TextGen.Proofs.Lexicon.Stopping
import TextGen.Proofs.Lexicon.Inflecting
import TextGen.Proofs.Word.Syllables
