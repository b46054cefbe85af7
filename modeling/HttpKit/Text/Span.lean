/-!
# Spans of code points

A character property is a list of closed intervals of code points.
-/

namespace HttpKit.Text

/-- A closed interval of code points. -/
abbrev Span := Nat × Nat

/-- Whether one of the spans holds the code point. -/
def inSpans (spans : List Span) (c : Nat) : Bool :=
  spans.any fun s => s.1 ≤ c && c ≤ s.2

end HttpKit.Text
