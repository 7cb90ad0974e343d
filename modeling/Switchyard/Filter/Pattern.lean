import Switchyard.Regex.Matching
import Switchyard.Regex.Reader

/-!
# The patterns of `MATCHES`

What a regular expression means is not for the filter language to say: it comes from an engine, and
filters are compiled with whatever engine there is. The language itself sees to it that a pattern
must match a whole text.

* `PatternEngine`: any engine; `PatternEngine.standard` is the one of this library, and the head of
  `Switchyard.Regex.Reader` says what it leaves out.
-/

namespace Switchyard.Filter

/-- What gives regular expressions their meaning. -/
structure PatternEngine where
  /-- The texts in which an expression is found, if it is one. -/
  compile? : String → Option (String → Bool)

/-- The engine of this library. -/
def PatternEngine.standard : PatternEngine := ⟨fun text => (Regex.compile? text).map Regex.isMatch⟩

/-- The pattern of a `MATCHES`: its full text and the texts that it matches. -/
structure TextPattern where
  source : String
  accepts : String → Bool

namespace TextPattern

/-- The full text of a pattern, which is found in a text only if it matches the whole of it. -/
def anchored (pattern : String) : String := "^(?:" ++ pattern ++ ")$"

/-- The pattern of a text, if it has a meaning. -/
def compile? (engine : PatternEngine) (pattern : String) : Option TextPattern :=
  (engine.compile? (anchored pattern)).map fun accepts => ⟨anchored pattern, accepts⟩

end TextPattern

end Switchyard.Filter
