import RangeTail.Http.Request
import RangeTail.Text.Cut
import RangeTail.Text.Decimal
import RangeTail.Text.Utf8

/-!
This module contains requests and answers as they are sent: lines that end in a carriage return and
a line feed, an empty one after the last of them, and the body.
-/

namespace RangeTail.Http

/-- The bytes of a line. -/
def sentLine (text : String) : List UInt8 :=
  Text.Utf8.encode text.toList ++ [0x0D, 0x0A]

namespace Request

/-- The host and the port as a request names them. -/
def authority (r : Request) : String :=
  String.ofList ((r.url.host.elim [] (·.text))
    ++ r.url.port.elim [] fun p => ':' :: (toString p).toList)

/-- The bytes of a request. -/
def sent (r : Request) : List UInt8 :=
  [s!"GET {r.url.target} HTTP/1.1", s!"Host: {r.authority}", s!"Range: {r.range.headerValue}",
    "Accept: */*", "Connection: close", ""].flatMap sentLine

end Request

namespace Response

/-- The lines before the empty one, and what follows it. A line may also end in a line feed alone. -/
def cutHead (bytes : List UInt8) : Option (List (List UInt8) × List UInt8) :=
  go bytes [] []
where
  go : List UInt8 → List UInt8 → List (List UInt8) → Option (List (List UInt8) × List UInt8)
    | [], _, _ => none
    | b :: rest, line, lines =>
      if b = 0x0A then
        let line := if line.head? = some 0x0D then line.tail else line
        if line = [] then some (lines.reverse, rest) else go rest [] (line.reverse :: lines)
      else go rest (b :: line) lines

/-- Bytes as characters, one each. -/
def characters (bytes : List UInt8) : List Char :=
  bytes.map fun b => Char.ofNat b.toNat

/-- The status in the first line of an answer. -/
def readStatus (line : List UInt8) : Option Nat :=
  match characters line with
  | 'H' :: 'T' :: 'T' :: 'P' :: '/' :: '1' :: '.' :: minor :: ' ' :: a :: b :: c :: rest =>
    if minor.isDigit ∧ a.isDigit ∧ b.isDigit ∧ c.isDigit ∧ (rest = [] ∨ rest.head? = some ' ')
    then some (Text.digitsValue [a, b, c]) else none
  | _ => none

/-- The name and the value of a header. -/
def readHeader (line : List UInt8) : Option (List Char × List UInt8) :=
  let name := line.takeWhile (· != 0x3A)
  match line.drop name.length with
  | [] => none
  | _ :: value => some (characters name, trimValue value)

/-- The values of the headers of a name. -/
def valuesOf (headers : List (List Char × List UInt8)) (name : String) : List (List UInt8) :=
  (headers.filter fun h => Text.eqIgnoreCase h.1 name.toList).map (·.2)

/-- Read an answer, from all bytes that came before the line was closed. A body in pieces with
lengths of their own is not understood. -/
def read (bytes : List UInt8) : Option Response := do
  let (lines, body) ← cutHead bytes
  let first :: rest := lines | none
  let status ← readStatus first
  let headers ← rest.mapM readHeader
  let [] := valuesOf headers "transfer-encoding" | none
  let contentLength ← match valuesOf headers "content-length" with
    | [] => some body.length
    | value :: _ => Text.readOffset (characters value)
  return { status, contentRanges := valuesOf headers "content-range", body, contentLength }

end Response
end RangeTail.Http
