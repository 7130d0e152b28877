import RangeTail.Url.Basic

/-!
This module contains the reading of URLs, as the web does it: blanks around them and ends of lines
within them are passed over, and in the schemes that the web knows a backslash is a slash.
-/

namespace RangeTail.Url

/-! Segments -/

def isSingleDot (s : List Char) : Bool :=
  s.map Char.toLower ∈ [['.'], "%2e".toList]

def isDoubleDot (s : List Char) : Bool :=
  s.map Char.toLower ∈ [['.', '.'], ".%2e".toList, "%2e.".toList, "%2e%2e".toList]

/-- A letter and a colon or a bar, as some systems name their disks. -/
def isDrive : List Char → Bool
  | [a, b] => a.isAlpha && (b == ':' || b == '|')
  | _ => false

/-- Whether a directory is the root of a disk: what follows its name there stands after a slash. -/
def isDiskRoot : List Char → Bool
  | a :: b :: '\\' :: _ => isDrive [a, b]
  | s => isDrive s

/-- A path up to a slash. -/
structure Walk where
  segments : List (List Char) := []
  /-- A disk was named first in the path of a file. -/
  onDisk : Bool := false
  deriving DecidableEq, Repr

namespace Walk

/-- Leave the last directory, unless it is the root of a disk. -/
def up (w : Walk) : Walk :=
  if w.segments.getLast?.any isDiskRoot then w else { w with segments := w.segments.dropLast }

/-- Follow a segment. The first one in the path of a file may name a disk. -/
def enter (file : Bool) (segment : List Char) (w : Walk) : Walk :=
  if isDoubleDot segment then w.up
  else if isSingleDot segment then w
  else if file && w.segments == [] && isDrive segment then
    { segments := [segment.take 1 ++ [':']], onDisk := true }
  else { w with segments := w.segments ++ [segment] }

/-- Follow a segment that no slash follows. -/
def finish (file : Bool) (segment : List Char) (w : Walk) : Walk :=
  let walk := w.enter file segment
  if isDoubleDot segment || isSingleDot segment then
    { walk with segments := walk.segments ++ [[]] }
  else walk

end Walk

/-- The ends of lines and the tabs, which say nothing in a URL. -/
def isBreak (c : Char) : Bool :=
  c == '\t' || c == '\n' || c == '\r'

/-- A segment as it is written in the end; the text is the other way round. -/
def segmentOf (reversed : List Char) : List Char :=
  percentEncode inPath reversed.reverse

/--
Follow a path from where one has come. A break within the first segment of the path of a file ends
the name of a disk, and what follows up to the next slash is taken as it is.
-/
def Walk.follow (special file : Bool) (s : List Char) (w : Walk) : Walk :=
  go s [] false w
where
  isSlash (c : Char) : Bool := c == '/' || (special && c == '\\')
  go : List Char → List Char → Bool → Walk → Walk
    | [], segment, _, w => w.finish file (segmentOf segment)
    | c :: s, segment, named, w =>
      if isBreak c then
        go s segment (named || (file && w.segments == [] && isDisk segment)) w
      else if isSlash c then go s [] false (w.enter file (segmentOf segment))
      else if named then plain s [c] { w with segments := [segment.reverse] }
      else go s (c :: segment) false w
  plain : List Char → List Char → Walk → Walk
    | [], segment, w => { w with segments := w.segments ++ [segmentOf segment] }
    | c :: s, segment, w =>
      if isBreak c then plain s segment w
      else if isSlash c then
        go s [] false { w with segments := w.segments ++ [segmentOf segment] }
      else plain s (c :: segment) w
  isDisk : List Char → Bool
    | [':', a] => a.isAlpha
    | _ => false

/-- Leading empty segments say nothing in the path of a file. -/
def dropEmpty (segments : List (List Char)) : List (List Char) :=
  match segments.dropWhile (· == []) with
  | [] => [[]]
  | rest => rest

/-- The segments of a path that begins with a slash or, in the schemes of the web, need not. -/
def readPath (special : Bool) (s : List Char) : List (List Char) :=
  match s with
  | [] => if special then [[]] else []
  | c :: r =>
    let rest := if c = '/' ∨ (special ∧ c = '\\') then r else s
    (Walk.follow special false rest {}).segments

/-! Authority -/

/-- The characters that end the part with the host. -/
def endsAuthority (special : Bool) (c : Char) : Bool :=
  c == '/' || c == '?' || c == '#' || (special && c == '\\')

/-- The text around the last at-sign. -/
def cutLastAt (s : List Char) : Option (List Char × List Char) :=
  (Text.cutAt '@' s.reverse).map fun (a, b) => (b.reverse, a.reverse)

/-- The text before the colon that a port follows, and the text after it. -/
def cutPort (s : List Char) : List Char × Option (List Char) :=
  go s [] false
where
  go : List Char → List Char → Bool → List Char × Option (List Char)
    | [], host, _ => (host.reverse, none)
    | c :: s, host, inBrackets =>
      if c = ':' ∧ !inBrackets then (host.reverse, some s)
      else go s (c :: host) (if c = '[' then true else if c = ']' then false else inBrackets)

/-- The port that digits spell, if there are any and it is not the one of the scheme. -/
def readPort (scheme : List Char) (s : List Char) : Except Error (Option Nat) :=
  let n := s.foldl (fun v c => 10 * v + (c.toNat - '0'.toNat)) 0
  if !s.all Char.isDigit ∨ 65535 < n then .error .invalidPort
  else if s = [] ∨ some n = defaultPort scheme then .ok none
  else .ok (some n)

/-- The user and the password before an at-sign. -/
def readCredentials (s : List Char) : List Char × List Char :=
  match Text.cutAt ':' s with
  | none => (percentEncode inUserinfo s, [])
  | some (user, password) => (percentEncode inUserinfo user, percentEncode inUserinfo password)

/--
A URL with the authority that a text spells, and what follows the authority before the slash of the
path. An at-sign alone is an authority only at the very end of a URL.
-/
def readAuthority (scheme : List Char) (s : List Char) (atEnd : Bool) :
    Except Error (Url × List Char) := do
  let special := isSpecial scheme
  let (userinfo, s) := match cutLastAt s with
    | some (userinfo, s) => (some userinfo, s)
    | none => (none, s)
  if userinfo = some [] ∧ s = [] ∧ !atEnd then throw .emptyHost
  let (user, password) := userinfo.elim ([], []) readCredentials
  let (hostText, rest) := cutPort s
  if hostText = [] ∧ special then throw .emptyHost
  let host ← if special then readHost hostText else readOtherHost hostText
  if hostText = [] ∧ rest.isSome then throw .emptyHost
  let (portText, rest) := (rest.getD []).span (· ≠ '\\')
  let port ← readPort scheme portText
  if hostText = [] ∧ (user ≠ [] ∨ password ≠ []) then throw .emptyHost
  return ({ scheme, username := user, password, host := some host, port, path := .rooted [] }, rest)

/-! Whole URLs -/

/-- The text before a character, and the text after it. -/
def cutOptional (c : Char) (s : List Char) : List Char × Option (List Char) :=
  match Text.cutAt c s with
  | some (a, b) => (a, some b)
  | none => (s, none)

/-- Text without its breaks. -/
def joinLines (s : List Char) : List Char :=
  s.filter (!isBreak ·)

/-- The scheme before a colon, and the text after it. -/
def cutScheme (s : List Char) : Option (List Char × List Char) := do
  let (before, rest) ← Text.cutAt ':' s
  match joinLines before with
  | [] => none
  | c :: scheme =>
    if c.isAlpha ∧ scheme.all (fun c => c.isAlphanum || c ∈ ['+', '-', '.']) then
      some ((c :: scheme).map Char.toLower, rest)
    else none

/-! Files -/

/-- The scheme of files. -/
def fileScheme : List Char :=
  "file".toList

/-- The text after a slash of either kind. -/
def afterSlash? (s : List Char) : Option (List Char) :=
  match s.dropWhile isBreak with
  | c :: r => if c = '/' ∨ c = '\\' then some r else none
  | [] => none

/-- The URL of a file that a walk leads to. A disk is one of this machine. -/
def ofWalk (host : Host) (w : Walk) : Url :=
  { scheme := fileScheme
    host := some (if w.onDisk then .name [] else host)
    path := .rooted (dropEmpty w.segments) }

/-- The host of a file: none stands for this machine, as its name does. -/
def readFileHost (s : List Char) : Except Error Host := do
  if s = [] then return .name []
  let host ← readHost s
  return if host = .name "localhost".toList then .name [] else host

/-- The URL of a file, from what follows its scheme. -/
def readFile (s : List Char) : Except Error Url := do
  let here (s : List Char) : Url := ofWalk (.name []) (Walk.follow true true s {})
  match afterSlash? s with
  | none => return here s
  | some r =>
    match afterSlash? r with
    | none => return here r
    | some r =>
      let (hostText, rest) := r.span fun c => !(c == '/' || c == '\\')
      if isDrive (joinLines hostText) then return here r
      else match ← readFileHost (joinLines hostText) with
        | .name [] => return here rest
        | host => return ofWalk host (Walk.follow true true (rest.drop 1) {})

/-! Whole URLs -/

/-- What follows a scheme other than that of files, up to the query. -/
def readHierarchy (scheme : List Char) (s : List Char) (atEnd : Bool) : Except Error Url := do
  if isSpecial scheme then
    let isSlash (c : Char) : Bool := c == '/' || c == '\\'
    let (authority, path) := (s.dropWhile isSlash).span fun c => !endsAuthority true c
    let (url, _) ← readAuthority scheme authority atEnd
    return { url with path := .rooted (readPath true path) }
  else
    match s with
    | '/' :: '/' :: r =>
      let (authority, path) := r.span fun c => !endsAuthority false c
      let (url, rest) ← readAuthority scheme authority (path.isEmpty && atEnd)
      return { url with path := .rooted (readPath false (rest ++ path)) }
    | '/' :: _ => return { scheme, path := .rooted (readPath false s) }
    | _ => return { scheme, path := .rootless (percentEncode isControl s) }

/-- The URL that a text spells. -/
def parse (text : String) : Except Error Url := do
  let isOuter (c : Char) : Bool := c.toNat ≤ 0x20
  let s := ((text.toList.dropWhile isOuter).reverse.dropWhile isOuter).reverse
  let some (scheme, s) := cutScheme s | throw .noBase
  let (s, fragment) := cutOptional '#' s
  let (s, query) := cutOptional '?' s
  let atEnd := query.isNone && fragment.isNone
  let url ← if isFile scheme then readFile s else readHierarchy scheme (joinLines s) atEnd
  let querySet := if isSpecial scheme then inSpecialQuery else inQuery
  return { url with
    query := query.map fun q => percentEncode querySet (joinLines q)
    fragment := fragment.map fun f => percentEncode inFragment (joinLines f) }

/-- Whether a path begins with the name of a disk as it is written in the end. -/
def startsOnDisk (segments : List (List Char)) : Bool :=
  segments.head?.any fun s => isDrive s && s.getLast? == some ':'

/--
The URL of another path, from its slash on, on the same host. A file stays on the disk that the first
segment of its path names.
-/
def resolve (base : Url) (path : String) : Except Error Url :=
  match base.path with
  | .rootless _ => .error .rootlessBase
  | .rooted segments =>
    let url := { base with query := none, fragment := none }
    if !isFile base.scheme then
      .ok { url with path := .rooted (readPath (isSpecial base.scheme) path.toList) }
    else
      let disk := startsOnDisk segments
      let w : Walk := { segments := if disk then segments.take 1 else [], onDisk := disk }
      .ok (ofWalk (base.host.getD (.name [])) (w.follow true true (path.toList.drop 1)))

end RangeTail.Url
