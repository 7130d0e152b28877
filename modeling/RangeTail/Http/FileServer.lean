import RangeTail.Http.Response
import RangeTail.MemoryLog
import RangeTail.Text.Utf8

/-!
This module contains a server of one file, as far as it is asked for ranges of it.
-/

namespace RangeTail.Http

/-- The value of a header that holds a text. -/
def headerBytes (text : String) : List UInt8 :=
  Text.Utf8.encode text.toList

/-- The answer of a server whose file is `log`. -/
def fileServer (log : MemoryLog) (r : ByteRange) : Response :=
  match log.serve r with
  | .ok chunk =>
    { status := 206
      contentRanges :=
        [headerBytes (ContentRange.covered chunk.offset (chunk.stop - 1) chunk.total).text]
      body := chunk.bytes }
  | .error _ =>
    { status := 416
      contentRanges := [headerBytes (ContentRange.unsatisfied log.size).text] }

/-- The answer of a server that has no such file. -/
def notFound : Response where
  status := 404

end RangeTail.Http
