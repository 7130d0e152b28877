import RangeTail.Tail
import RangeTail.Text.Quoted

/-!
This module contains the description of a tail in one line.
-/

namespace RangeTail.Tail

/-- A value that may be missing. -/
def describeOption (f : α → String) : Option α → String
  | some a => "Some(" ++ f a ++ ")"
  | none => "None"

def describeRange : ByteRange → String
  | .span first last => s!"Span \x7b start: {first}, end: {last} \x7d"
  | .suffix length => s!"Suffix \x7b len: {length} \x7d"

def describeDirective : Directive → String
  | .jump offset => s!"Jump({offset})"
  | .skipToEnd offset => s!"SkipToEnd({offset})"

def describeWindow (s : Snapshot) : String :=
  describeOption (fun first => s!"{first}..{first + s.bytes.length}") s.offset

def description (t : Tail) : String :=
  "TailController \x7b url: " ++ Text.quoted t.url
    ++ ", span: " ++ describeWindow t.snapshot
    ++ ", follow: " ++ toString t.snapshot.follow
    ++ ", pending: " ++ describeOption describeDirective t.pending
    ++ ", in_flight: " ++ describeOption describeRange (t.inFlight.map (·.range))
    ++ ", polling: " ++ toString t.isPolling ++ ", .. \x7d"

end RangeTail.Tail
