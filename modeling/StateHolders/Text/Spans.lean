/-!
# Spans of code points

A property of characters is kept as a list of closed spans of code points.
-/

namespace StateHolders.Text

/-- Whether a code point lies in one of the spans. -/
def inSpans (spans : List (Nat × Nat)) (n : Nat) : Bool :=
  spans.any fun span => span.1 ≤ n && n ≤ span.2

end StateHolders.Text
