import ProcMeter.Dict

/-! Lists of name patterns. A compiled pattern is a predicate on names, so all
that is said of a matcher holds whatever the pattern language is. -/
namespace ProcMeter

/-- An ordered list of compiled patterns. -/
structure Matcher where
  patterns : List (String → Bool)

namespace Matcher

/-- Compiles every pattern in order. The error is the first one that `compile`
refuses. -/
def compile? (compile : String → Option (String → Bool)) (sources : List String) :
    Except String Matcher :=
  (go sources).map Matcher.mk
where
  go : List String → Except String (List (String → Bool))
    | [] => .ok []
    | s :: ss =>
      match compile s with
      | none => .error s
      | some p => (go ss).map (p :: ·)

def isEmpty (m : Matcher) : Bool := m.patterns.isEmpty

def length (m : Matcher) : Nat := m.patterns.length

/-- Some pattern matches the name, so an empty list matches no name. -/
def accepts (m : Matcher) (name : String) : Bool := m.patterns.any fun p => p name

/-- Like `accepts`, but an empty list matches every name. -/
def acceptsOrEmpty (m : Matcher) (name : String) : Bool := m.isEmpty || m.accepts name

end Matcher

end ProcMeter
