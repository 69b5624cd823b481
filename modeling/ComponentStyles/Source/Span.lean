import ComponentStyles.Text

/-!
Byte ranges of a source text.
-/

namespace ComponentStyles

/-- A half-open range of byte offsets. -/
structure Span where
  start : Nat
  stop : Nat
deriving DecidableEq, Repr, Inhabited

namespace Span

/-- The span of nodes that do not come from a source text. -/
def detached : Span := ⟨0, 0⟩

def emptyAt (offset : Nat) : Span := ⟨offset, offset⟩

def length (span : Span) : Nat :=
  span.stop - span.start

def isEmpty (span : Span) : Bool :=
  span.start == span.stop

/-- The smallest span that covers both. -/
def cover (a b : Span) : Span :=
  ⟨min a.start b.start, max a.stop b.stop⟩

/-- The same range, `distance` bytes further on. -/
def shift (distance : Nat) (span : Span) : Span :=
  ⟨span.start + distance, span.stop + distance⟩

end Span

namespace Text

/-- Drops exactly `bytes` bytes, if that ends between two characters. -/
def dropBytes? : Nat → Text → Option Text
  | 0, text => some text
  | _ + 1, [] => none
  | bytes@(_ + 1), c :: rest =>
      if c.utf8Size ≤ bytes then dropBytes? (bytes - c.utf8Size) rest else none
termination_by structural _ text => text

/-- Takes exactly `bytes` bytes, if that ends between two characters. -/
def takeBytes? : Nat → Text → Option Text
  | 0, _ => some []
  | _ + 1, [] => none
  | bytes@(_ + 1), c :: rest =>
      if c.utf8Size ≤ bytes then (takeBytes? (bytes - c.utf8Size) rest).map (c :: ·) else none
termination_by structural _ text => text

/-- The text that a span covers, unless the span leaves the text or cuts a character. -/
def slice? (text : Text) (span : Span) : Option Text :=
  if span.start ≤ span.stop then
    (dropBytes? span.start text).bind (takeBytes? span.length)
  else
    none

end Text

end ComponentStyles
