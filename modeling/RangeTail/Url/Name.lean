import RangeTail.Text.Composed
import RangeTail.Text.Utf8
import RangeTail.Url.Name.Direction
import RangeTail.Url.Name.Folding
import RangeTail.Url.Name.Joining
import RangeTail.Url.Punycode

/-!
This module contains the names of hosts: labels between dots. Letters outside of ASCII are written in
Punycode, and all ways to write a name lead to one.
-/

namespace RangeTail.Url.Name

/-- The characters of ASCII that no name may hold. -/
def isForbidden (c : Char) : Bool :=
  c.toNat ≤ 0x20 || c.toNat == 0x7F
    || c ∈ ['%', '#', '/', ':', '<', '>', '?', '@', '[', '\\', ']', '^', '|']

def isAscii (s : List Char) : Bool :=
  s.all (·.toNat < 0x80)

/-- The form of a text in names. -/
def foldAll? (s : List Char) : Option (List Char) :=
  (s.mapM fold?).map fun forms => Text.Composed.compose forms.flatten

/-- What marks a label in Punycode. -/
def mark : List Char :=
  ['x', 'n', '-', '-']

/-- Whether a label can be shown: it has no mark without a letter, and is not too long. -/
def isSound (label : List Char) : Bool :=
  !label.head?.any Text.isMark && joinersHaveEffect label
    && (isAscii label || label.length ≤ 1000)

/-- A label as it is shown and as it is written in ASCII. -/
structure Label where
  shown : List Char
  written : List Char
  deriving DecidableEq, Repr

/-- The label that is written in Punycode behind its mark. It has to be in the form of names. -/
def ofPunycode? (s : List Char) : Option Label :=
  if !isAscii s || s.getLast?.all (· == '-') || 2000 < s.length then none
  else
    match Punycode.decode s with
    | none => none
    | some label =>
      if foldAll? label = some label ∧ !label.any isForbidden ∧ '.' ∉ label ∧ ¬ mark <+: label
          ∧ isSound label then
        some ⟨label, mark ++ s⟩
      else none

/-- The label that a text in the form of names spells. -/
def label? (s : List Char) : Option Label :=
  if mark <+: s then ofPunycode? (s.drop mark.length)
  else if isSound s then some ⟨s, if isAscii s then s else mark ++ Punycode.encode s⟩
  else none

/-- The labels of a name can be shown together. -/
def areInOrder (labels : List Label) : Bool :=
  !labels.any (runsRight ·.shown) || labels.all (keepsTogether ·.shown)

/-- The name that bytes spell, in ASCII. -/
def ofBytes? (bytes : List UInt8) : Option (List Char) := do
  let s ← foldAll? (← Text.Utf8.decode bytes)
  let labels ← (Text.splitOn '.' s).mapM label?
  if s.any isForbidden || !areInOrder labels then none
  else some (List.intercalate ['.'] (labels.map (·.written)))

end RangeTail.Url.Name
