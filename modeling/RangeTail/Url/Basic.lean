import RangeTail.Url.Host

/-!
This module contains URLs and their writing.
-/

namespace RangeTail

/-- The path of a URL: segments, each after a slash, or a text that has no root. -/
inductive Url.Path where
  | rooted (segments : List (List Char))
  | rootless (text : List Char)
  deriving DecidableEq, Repr

/-- A URL. All parts are kept in the form in which they are written. -/
structure Url where
  scheme : List Char
  username : List Char := []
  password : List Char := []
  /-- No host at all is not the same as an empty one. -/
  host : Option Url.Host := none
  /-- The port, unless it is the one of the scheme. -/
  port : Option Nat := none
  path : Url.Path
  query : Option (List Char) := none
  fragment : Option (List Char) := none
  deriving DecidableEq, Repr

namespace Url

/-- The schemes that the web has rules of their own for, with their ports. -/
def specialPorts : List (List Char × Option Nat) :=
  [("http".toList, some 80), ("https".toList, some 443), ("ws".toList, some 80),
    ("wss".toList, some 443), ("ftp".toList, some 21), ("file".toList, none)]

def isSpecial (scheme : List Char) : Bool :=
  (specialPorts.lookup scheme).isSome

def isFile (scheme : List Char) : Bool :=
  scheme == "file".toList

def defaultPort (scheme : List Char) : Option Nat :=
  (specialPorts.lookup scheme).join

/-- The path as it is written. -/
def Path.text : Path → List Char
  | .rooted segments => segments.flatMap ('/' :: ·)
  | .rootless text => text

/-- What stands before the host. -/
def credentials (u : Url) : List Char :=
  if u.username = [] ∧ u.password = [] then []
  else u.username ++ (if u.password = [] then [] else ':' :: u.password) ++ ['@']

/-- The host with all that belongs to it. -/
def authority (u : Url) : List Char :=
  match u.host with
  | none =>
    match u.path with
    | .rooted ([] :: _ :: _) => ['/', '.']
    | _ => []
  | some h => ['/', '/'] ++ u.credentials ++ h.text ++
      (match u.port with
        | some p => ':' :: (toString p).toList
        | none => [])

/-- The URL without its query and its fragment. -/
def location (u : Url) : List Char :=
  u.scheme ++ [':'] ++ u.authority ++ u.path.text

def text (u : Url) : String :=
  String.ofList (u.location ++ (u.query.elim [] ('?' :: ·)) ++ (u.fragment.elim [] ('#' :: ·)))

/-- The URL without the user whom it names and his password. What is no text stays. -/
def anonymous (u : Url) : Url :=
  let isText (s : List Char) := (Text.Utf8.decode (percentDecode (Text.Utf8.encode s))).isSome
  if isText u.username ∧ (u.username ≠ [] ∨ isText u.password) then
    { u with username := [], password := [] }
  else u

/-- The path and the query, as a request names them. -/
def target (u : Url) : String :=
  String.ofList (u.path.text ++ (u.query.elim [] ('?' :: ·)))

/-- The port that is connected to. -/
def connectPort (u : Url) : Option Nat :=
  u.port.orElse fun _ => defaultPort u.scheme

end Url
end RangeTail
