import RangeTail.Config
import RangeTail.Text.Utf8
import RangeTail.Toml.Document

/-!
This module contains the reading of settings from a TOML document. A key that is absent keeps its
default and a key that is not known is passed over.
-/

namespace RangeTail.Config

/-- The entry of a document under a key, if it has one; an entry of another type is an error. -/
def entry (entries : List (String × Toml.Value)) (key : String) (default : α)
    (read : Toml.Value → Option α) : Except Error α :=
  match entries.lookup key with
  | none => .ok default
  | some v => (read v).elim (.error .parse) .ok

def natural? : Toml.Value → Option Nat
  | .integer n => n.toNat?
  | _ => none

def boolean? : Toml.Value → Option Bool
  | .boolean b => some b
  | _ => none

def string? : Toml.Value → Option String
  | .string s => some s
  | _ => none

/-- The settings that a document states, before they are judged. -/
def ofEntries (entries : List (String × Toml.Value)) : Except Error Config := do
  let d : Config := {}
  return {
    chunkSize := ← entry entries "chunk_size" d.chunkSize natural?
    pollInterval := ← entry entries "poll_interval_ms" d.pollInterval natural?
    scrollSettle := ← entry entries "scroll_settle_ms" d.scrollSettle natural?
    requestTimeout := ← entry entries "request_timeout_ms" d.requestTimeout natural?
    follow := ← entry entries "follow" d.follow boolean?
    offsetParam := ← entry entries "offset_param" d.offsetParam string? }

/-- The settings that a text states. -/
def parse (text : String) : Except Error Config :=
  match Toml.document text with
  | none => .error .parse
  | some entries => ofEntries entries >>= validate

/-- The settings that a file states, from its path and its bytes or why it has none. -/
def load (path : String) (contents : Except String (List UInt8)) : Except Error Config :=
  match contents with
  | .error cause => .error (.unreadable path cause)
  | .ok bytes =>
    match Text.Utf8.decode bytes with
    | none => .error (.unreadable path "stream did not contain valid UTF-8")
    | some text => parse (String.ofList text)

end RangeTail.Config
