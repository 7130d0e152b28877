import RangeTail.Chunk
import RangeTail.ContentRange
import RangeTail.Fault

/-!
This module contains the answers of HTTP servers to requests for ranges, and what they are worth:
only a part of a file is taken, and a file without bytes is told from a failure.
-/

namespace RangeTail.Http

/-- The answer of a server, as far as it arrived. -/
structure Response where
  status : Nat
  /-- The values of the Content-Range headers, in order. -/
  contentRanges : List (List UInt8) := []
  /-- The bytes that came after the headers. -/
  body : List UInt8 := []
  /-- The number of bytes that were to come after the headers. -/
  contentLength : Nat := body.length
  deriving DecidableEq, Repr

namespace Response

/-- A blank of a header line. -/
def isBlank (b : UInt8) : Bool :=
  b == 0x20 || b == 0x09

/-- The value of a header without the blanks around it. -/
def trimValue (value : List UInt8) : List UInt8 :=
  ((value.dropWhile isBlank).reverse.dropWhile isBlank).reverse

/-- A byte that a header value of ASCII text can hold. -/
def isText (b : UInt8) : Bool :=
  (0x20 ≤ b && b ≤ 0x7E) || b == 0x09

/-- A byte that no header line can hold. -/
def isControl (b : UInt8) : Bool :=
  (b < 0x20 && b != 0x09) || b == 0x7F

/-- The value of a header as a text, if it is one. -/
def valueText (value : List UInt8) : Option String :=
  if value.all isText then some (String.ofList (value.map fun b => Char.ofNat b.toNat)) else none

/-- What the first Content-Range header says. -/
def contentRange (r : Response) : Except ContentRange.Error ContentRange :=
  match r.contentRanges with
  | [] => .error .missing
  | value :: _ =>
    match valueText (trimValue value) with
    | none => .error .notAscii
    | some text => ContentRange.parse text

/-- The most bytes that an answer may announce. The two greater numbers of 64 bits have other uses. -/
def maxLength : Nat := 0xFFFFFFFFFFFFFFFD

/-- Whether nothing comes after the headers, whatever they announce. -/
def isBodiless (r : Response) : Bool :=
  r.status == 101 || r.status == 204 || r.status == 304

/-- Whether this is an answer: one that announces another is none, since no other follows. -/
def isAnswer (r : Response) : Bool :=
  ((200 ≤ r.status && r.status < 1000) || r.status == 101)
    && (r.contentRanges.all fun value => !value.any isControl)
    && (r.isBodiless || r.contentLength ≤ maxLength)

/-- The bytes after the headers, if all of them came. -/
def wholeBody (r : Response) : Except Fault (List UInt8) :=
  if r.body.length < r.contentLength then .error (.transport "error decoding response body")
  else .ok (r.body.take r.contentLength)

/--
What an answer is worth. The length of the body need not be the one that its content range has: the
bytes are taken from where it begins on.
-/
def result (r : Response) : Except Fault Chunk :=
  if r.status = 206 then
    match r.contentRange with
    | .ok (.covered first _ total) => r.wholeBody.map fun bytes => ⟨first, bytes, total⟩
    | .ok (.unsatisfied total) => .error (.emptyFile total)
    | .error e => .error (.contentRange e)
  else
    match r.status, r.contentRange with
    | 416, .ok (.unsatisfied total) => .error (.emptyFile total)
    | status, _ => .error (.status status)

end Response
end RangeTail.Http
