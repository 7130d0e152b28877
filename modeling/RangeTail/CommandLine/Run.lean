import RangeTail.CommandLine.Printing
import RangeTail.CommandLine.Usage
import RangeTail.Config.Document
import RangeTail.Http.Request
import RangeTail.Index.Latest

/-!
This module contains the program as a whole: what it prints, what it asks for and the code that it
ends with, in a world that holds files and servers.
-/

namespace RangeTail.CommandLine

/-- What the program finds around it. -/
structure World where
  /-- The bytes of a file, or why it has none. -/
  file : String → Except String (List UInt8)
  /-- The servers that get the requests for a URL, one request each, and may answer them. -/
  servers : Url → List (ByteRange → Option Http.Response)

/-- What comes of the requests for a URL. One that cannot be made fails. -/
def World.answers (w : World) (url : Url) : List (ByteRange → Except Fault Chunk) :=
  if Http.Request.canAsk url then
    (w.servers url).map fun serve range => Http.Request.outcome { url, range } (serve range)
  else [fun _ => .error (Http.Request.unmade url)]

/-- What the program has done. -/
structure Outcome where
  code : Nat
  output : String := ""
  complaint : String := ""
  /-- The requests that were made, in order. -/
  requests : List Http.Request := []
  deriving DecidableEq, Repr

namespace Outcome

/-- The requests that can be made for ranges of the file at a URL. -/
def requestsAt (url : Url) (ranges : List ByteRange) : List Http.Request :=
  if Http.Request.canAsk url then ranges.map fun range => { url, range } else []

def ofComplaint (c : Complaint) : Outcome where
  code := 1
  complaint := c.text

def ofInterruption : Interruption → Outcome
  | .help topic => { code := 0, output := topic.page }
  | .version => { code := 0, output := versionLine }
  | .refused reason => { code := 2, complaint := s!"error: {reason.message}\n" }

def ofPrinted (url : Url) (p : Printed) : Outcome :=
  let requests := requestsAt url p.requests
  match p.verdict with
  | .failed f =>
    { code := 1, output := p.output, complaint := (Complaint.ofFailure f).text, requests }
  | .broken part =>
    { code := part.code, output := p.output, complaint := part.complaint, requests }
  | _ => { code := 0, output := p.output, requests }

end Outcome

namespace TailOptions

/-- The settings to work with: those of the file, if there is one, and then those of the options. -/
def settings (o : TailOptions) (file : String → Except String (List UInt8)) :
    Except Config.Error Config := do
  let c ← match o.config with
    | some path => Config.load path (file path)
    | none => .ok {}
  { c with follow := c.follow || o.follow, chunkSize := o.chunkSize.getD c.chunkSize }.validate

/-- The settings and the URL, or what is wrong with the first of them that is no good. -/
def prepare (o : TailOptions) (file : String → Except String (List UInt8)) :
    Except Complaint (Config × Url) :=
  match o.settings file with
  | .error e => .error (.ofConfigError e)
  | .ok config =>
    match Url.parse o.url with
    | .error e => .error (.ofUrlError "url" o.url e)
    | .ok url => .ok (config, url)

end TailOptions

namespace IndexOptions

/-- The URL of the index. -/
def prepare (o : IndexOptions) : Except Complaint Url :=
  match Url.parse o.base with
  | .error e => .error (.ofUrlError "base url" o.base e)
  | .ok base =>
    match base.resolve Index.path with
    | .error e => .error { message := e.message }
    | .ok url => .ok url

/-- The lines to print when the request for the index has been answered. -/
def report (o : IndexOptions) (url : Url) (answer : Except Fault Chunk) :
    Except Complaint String :=
  match Index.latest answer with
  | .error f => .error (.ofFault url.text f)
  | .ok records => .ok (String.join
      ((Index.filtered records (.parse o.role)).map fun r => r.line ++ "\n"))

end IndexOptions

/-- Print a log. -/
def runTail (w : World) (o : TailOptions) : Outcome :=
  match o.prepare w.file with
  | .error c => .ofComplaint c
  | .ok (config, url) =>
    .ofPrinted url ((Printing.launch config url o.offset 0).run 0 (w.answers url))

/-- List an index. -/
def runIndex (w : World) (o : IndexOptions) : Outcome :=
  match o.prepare with
  | .error c => .ofComplaint c
  | .ok url =>
    let requests := Outcome.requestsAt url [Index.latestRange]
    match w.answers url with
    | [] => { code := 0, requests }
    | serve :: _ =>
      match o.report url (serve Index.latestRange) with
      | .error c => { Outcome.ofComplaint c with requests }
      | .ok output => { code := 0, output, requests }

/-- Do what the arguments say. -/
def run (w : World) (args : List String) : Outcome :=
  match parse args with
  | .error i => .ofInterruption i
  | .ok (.tail o) => runTail w o
  | .ok (.index o) => runIndex w o

end RangeTail.CommandLine
