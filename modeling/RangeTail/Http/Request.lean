import RangeTail.ByteRange
import RangeTail.Http.Response
import RangeTail.Url.Reader

/-!
This module contains the requests for ranges that HTTP clients make.
-/

namespace RangeTail.Http

/-- A request for a range of the file at a URL. -/
structure Request where
  url : Url
  range : ByteRange
  deriving DecidableEq, Repr

namespace Request

/-- The schemes that can be spoken. -/
def schemes : List (List Char) :=
  ["http".toList, "https".toList]

/-- The most bytes that the URL of a request can have. -/
def maxUrlLength : Nat := 0xFFFE

/-- A character that a host can have in a URL and not in a request. -/
def isHostile (c : Char) : Bool :=
  c ∈ ['"', '\x60', '\x7b', '\x7d']

/-- Whether something can be asked for at a URL. -/
def canAsk (url : Url) : Bool :=
  schemes.contains url.scheme
    && !(url.host.elim [] Url.Host.text).any isHostile
    && url.anonymous.text.utf8ByteSize ≤ maxUrlLength

/-- The request at a URL has not been made. -/
def unmade (url : Url) : Fault :=
  .transport s!"builder error for url ({url.anonymous.text})"

/-- The request at a URL has not been answered. -/
def unanswered (url : Url) : Fault :=
  .transport s!"error sending request for url ({url.anonymous.text})"

/-- The request that can be made for a URL. -/
def ofUrl (url : Url) (range : ByteRange) : Except Fault Request :=
  if canAsk url then .ok { url, range } else .error (unmade url)

/-- The request that can be made for the text of a URL. -/
def ofText (url : String) (range : ByteRange) : Except Fault Request :=
  match Url.parse url with
  | .ok u => ofUrl u range
  | .error _ => .error (.transport "builder error")

/-- What is got by a request from its answer, if there is one. -/
def outcome (r : Request) (answer : Option Response) : Except Fault Chunk :=
  match answer with
  | some response => if response.isAnswer then response.result else .error (unanswered r.url)
  | none => .error (unanswered r.url)

end Request

/-- Fetch a range of the file at a URL, by a way to exchange a request for an answer. -/
def fetch (exchange : Request → Option Response) (url : String) (range : ByteRange) :
    Except Fault Chunk := do
  let request ← Request.ofText url range
  request.outcome (exchange request)

end RangeTail.Http
