import TextGen.Notice
import TextGen.Random.Source

/-! The running state of an operation that draws at random.
It holds the source of random words and the notices given so far, the newest one first. -/
namespace TextGen

structure Run where
  source : Source
  notices : List Notice := []
deriving DecidableEq, Repr, Inhabited

namespace Run

variable {α : Type}

def draw (r : Run) (f : Source → α × Source) : α × Run :=
  let (a, s) := f r.source
  (a, { r with source := s })

def note (r : Run) (severity : Severity) (text : String) : Run :=
  { r with notices := ⟨severity, text⟩ :: r.notices }

def warn (r : Run) (text : String) : Run := r.note .warning text

def log (r : Run) : List Notice := r.notices.reverse

end Run

end TextGen
