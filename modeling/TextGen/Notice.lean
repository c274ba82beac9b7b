/-! Notices.
Operations return the notices they give as values, in the order in which they were given. -/
namespace TextGen

inductive Severity where
  | warning
  | debug
  | trace
deriving DecidableEq, Repr

namespace Severity

def rank : Severity → Nat
  | warning => 0
  | debug => 1
  | trace => 2

def label : Severity → String
  | warning => "WARN"
  | debug => "DEBUG"
  | trace => "TRACE"

end Severity

structure Notice where
  severity : Severity
  text : String
deriving DecidableEq, Repr

end TextGen
