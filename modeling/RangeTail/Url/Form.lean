import RangeTail.Url.Reader

/-!
This module contains the pairs of keys and values in the query of a URL. A pair whose key or value
is set anew is written again, and so are all others with it.
-/

namespace RangeTail.Url

namespace Form

/-- The characters that stand for themselves. -/
def isPlain (c : Char) : Bool :=
  (c.isAlphanum || c ∈ ['*', '-', '.', '_'])

/-- A key or a value as it is written. -/
def encode (s : List Char) : List Char :=
  s.flatMap fun c =>
    if isPlain c then [c]
    else if c = ' ' then ['+']
    else (String.utf8EncodeChar c).flatMap percentByte

/-- A key or a value as it is meant. -/
def decode (s : List Char) : List Char :=
  Text.Utf8.decodeLossy
    (percentDecode (Text.Utf8.encode (s.map fun c => if c = '+' then ' ' else c)))

/-- The pairs of a query. A piece without an equals sign is a key with an empty value. -/
def pairs (query : List Char) : List (String × String) :=
  ((Text.splitOn '&' query).filter (· ≠ [])).map fun piece =>
    match Text.cutAt '=' piece with
    | some (k, v) => (String.ofList (decode k), String.ofList (decode v))
    | none => (String.ofList (decode piece), "")

/-- The query that pairs are written as. -/
def query (ps : List (String × String)) : List Char :=
  List.intercalate ['&'] (ps.map fun (k, v) => encode k.toList ++ '=' :: encode v.toList)

end Form

/-- The pairs in the query of a URL. -/
def pairs (u : Url) : List (String × String) :=
  u.query.elim [] Form.pairs

/-- A URL with other pairs in its query; without any it has no query. -/
def withPairs (u : Url) (ps : List (String × String)) : Url :=
  if ps = [] then
    let path := match u.path, u.fragment with
      | .rootless text, none => .rootless (text.reverse.dropWhile (· == ' ')).reverse
      | path, _ => path
    { u with path, query := none }
  else { u with query := some (Form.query ps) }

end RangeTail.Url
