/-!
This module contains the reading and writing of UTF-8. `readChar` reads one character off the front
of a byte sequence and tells a sequence that is cut off by the end of the input from one that no
further bytes could complete; both decoders, the strict and the lossy one, iterate it.
-/

namespace RangeTail.Text.Utf8

/-- The bytes of a text. -/
def encode (s : List Char) : List UInt8 :=
  s.flatMap String.utf8EncodeChar

/-- What stands at the front of a byte sequence. -/
inductive Reading where
  /-- A character, and the bytes after it. -/
  | char (c : Char) (rest : List UInt8)
  /-- A character whose bytes are cut off by the end of the input; nothing at all counts as one. -/
  | cut
  /-- Bytes that begin no character, and what follows the longest part of them that could have. -/
  | bad (rest : List UInt8)
  deriving DecidableEq, Repr

def isContinuation (b : UInt8) : Bool :=
  b &&& 0xC0 == 0x80

/-- The six bits that a continuation byte carries. -/
def payload (b : UInt8) : Nat :=
  b.toNat % 64

/-- The bounds on the second byte that rule out overlong forms, surrogates and what lies above
U+10FFFF. -/
def secondByteBounds (first : UInt8) : UInt8 × UInt8 :=
  if first = 0xE0 then (0xA0, 0xBF)
  else if first = 0xED then (0x80, 0x9F)
  else if first = 0xF0 then (0x90, 0xBF)
  else if first = 0xF4 then (0x80, 0x8F)
  else (0x80, 0xBF)

def secondByteOk (first second : UInt8) : Bool :=
  let (lo, hi) := secondByteBounds first
  lo ≤ second && second ≤ hi

/-- Read one character off the front of the bytes. -/
def readChar : List UInt8 → Reading
  | [] => .cut
  | a :: s =>
    if a < 0x80 then .char (Char.ofNat a.toNat) s
    else if a < 0xC2 then .bad s
    else if a < 0xE0 then
      match s with
      | [] => .cut
      | b :: s₁ =>
        if isContinuation b then .char (Char.ofNat (a.toNat % 32 * 64 + payload b)) s₁ else .bad s
    else if a < 0xF0 then
      match s with
      | [] => .cut
      | b :: s₁ =>
        if secondByteOk a b then
          match s₁ with
          | [] => .cut
          | c :: s₂ =>
            if isContinuation c then
              .char (Char.ofNat (a.toNat % 16 * 4096 + payload b * 64 + payload c)) s₂
            else .bad s₁
        else .bad s
    else if a < 0xF5 then
      match s with
      | [] => .cut
      | b :: s₁ =>
        if secondByteOk a b then
          match s₁ with
          | [] => .cut
          | c :: s₂ =>
            if isContinuation c then
              match s₂ with
              | [] => .cut
              | d :: s₃ =>
                if isContinuation d then
                  .char (Char.ofNat
                    (a.toNat % 8 * 262144 + payload b * 4096 + payload c * 64 + payload d)) s₃
                else .bad s₂
            else .bad s₁
        else .bad s
    else .bad s

theorem readChar_char_lt {s rest : List UInt8} {c : Char} (h : readChar s = .char c rest) :
    rest.length < s.length := by
  unfold readChar at h
  repeat' split at h
  all_goals cases h
  all_goals simp only [List.length_cons]; omega

theorem readChar_bad_lt {s rest : List UInt8} (h : readChar s = .bad rest) :
    rest.length < s.length := by
  unfold readChar at h
  repeat' split at h
  all_goals cases h
  all_goals simp only [List.length_cons]; omega

/-- The characters at the front of the bytes, as many as can be read, and what stopped the
reading. -/
def readChars (s : List UInt8) : List Char × Reading :=
  go s []
where
  go (s : List UInt8) (read : List Char) : List Char × Reading :=
    match _h : readChar s with
    | .char c rest => go rest (c :: read)
    | r => (read.reverse, r)
  termination_by s.length
  decreasing_by exact readChar_char_lt _h

/-- The text of the bytes, or nothing if they are not UTF-8. -/
def decode (s : List UInt8) : Option (List Char) :=
  go s []
where
  go (s : List UInt8) (read : List Char) : Option (List Char) :=
    match s with
    | [] => some read.reverse
    | a :: s =>
      match _h : readChar (a :: s) with
      | .char c rest => go rest (c :: read)
      | _ => none
  termination_by s.length
  decreasing_by exact readChar_char_lt _h

/-- As `decode`, but a character that is cut off by the end of the bytes is left out. -/
def decodeOpen (s : List UInt8) : Option (List Char) :=
  match readChars s with
  | (cs, .cut) => some cs
  | _ => none

/-- The text of the bytes, with U+FFFD for every longest part that could have begun a character and
does not go on as one. -/
def decodeLossy (s : List UInt8) : List Char :=
  go s []
where
  go (s : List UInt8) (read : List Char) : List Char :=
    match s with
    | [] => read.reverse
    | a :: s =>
      match _h : readChar (a :: s) with
      | .char c rest => go rest (c :: read)
      | .bad rest => go rest ('\uFFFD' :: read)
      | .cut => ('\uFFFD' :: read).reverse
  termination_by s.length
  decreasing_by
    · exact readChar_char_lt _h
    · exact readChar_bad_lt _h

/-- The text from byte `n` on, or nothing if no character begins or the text ends there. -/
def dropBytes : Nat → List Char → Option (List Char)
  | 0, s => some s
  | _ + 1, [] => none
  | n + 1, c :: s => if c.utf8Size ≤ n + 1 then dropBytes (n + 1 - c.utf8Size) s else none

/-- The number of bytes of a text. -/
def size (s : List Char) : Nat :=
  s.foldl (fun n c => n + c.utf8Size) 0

end RangeTail.Text.Utf8
