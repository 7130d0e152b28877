import RangeTail.ByteRange
import RangeTail.Chunk
import RangeTail.Fault
import RangeTail.Index.Listing

/-!
This module contains the latest records of an index, which are those at its end.
-/

namespace RangeTail.Index

/-- The part of an index that is asked for. -/
def latestRange : ByteRange :=
  .suffix tailBytes

/-- The records in the answer to the request for the end of an index. There are none in an empty
one. -/
def latest : Except Fault Chunk → Except Fault (List Record)
  | .ok chunk => .ok (parse (Text.Utf8.decodeLossy chunk.bytes) (chunk.offset == 0))
  | .error (.emptyFile _) => .ok []
  | .error fault => .error fault

end RangeTail.Index
