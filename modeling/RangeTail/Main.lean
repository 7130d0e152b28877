import RangeTail.CommandLine.Run
import RangeTail.Http.Wire
import Std.Async.DNS
import Std.Async.Signal
import Std.Async.TCP
import Std.Async.Timer

/-!
This module contains the program as it meets files, servers and its user. Servers are spoken to
without encryption.
-/

namespace RangeTail.Program

open Std.Async Std.Net
open CommandLine

/-! Servers -/

/-- The name that a host is looked up by. -/
def lookupName (host : Url.Host) : String :=
  String.ofList (host.text.filter fun c => c != '[' && c != ']')

def socketAddress (port : Nat) : IPAddr → SocketAddress
  | .v4 addr => .v4 { addr, port := port.toUInt16 }
  | .v6 addr => .v6 { addr, port := port.toUInt16 }

/-- All bytes that come before the other side closes the line. -/
partial def receiveAll (client : TCP.Socket.Client) (got : ByteArray) : Async ByteArray := do
  match ← client.recv? 65536 with
  | some bytes => receiveAll client (got ++ bytes)
  | none => return got

/-- Exchange a request for an answer. -/
def exchange (r : Http.Request) : Async (Option Http.Response) := do
  let some host := r.url.host | return none
  if r.url.scheme != "http".toList then return none
  let port := r.url.connectPort.getD 80
  let addresses ← DNS.getAddrInfo (lookupName host) (toString port)
  let some address := addresses[0]? | return none
  let client ← TCP.Socket.Client.mk
  client.connect (socketAddress port address)
  client.send (ByteArray.mk r.sent.toArray)
  let bytes ← receiveAll client .empty
  return Http.Response.read bytes.toList

/-- Exchange a request for an answer, within a time limit if there is one. -/
def exchangeWithin (timeout : Option Nat) (r : Http.Request) : IO (Option Http.Response) := do
  try
    match timeout with
    | none => (exchange r).block
    | some limit =>
      let expire : Async (Option Http.Response) := do
        sleep (.ofNat limit)
        return none
      (Async.race (exchange r) expire).block
  catch _ => return none

/-- Fetch a range of the file at a URL. -/
def fetch (timeout : Option Nat) (url : Url) (range : ByteRange) : IO (Except Fault Chunk) := do
  match Http.Request.ofUrl url range with
  | .error f => return .error f
  | .ok request => return request.outcome (← exchangeWithin timeout request)

/-! Commands -/

/-- Why a file cannot be read, with the number that the system has for it. -/
def fileCause : IO.Error → String
  | .noFileOrDirectory .. => "No such file or directory (os error 2)"
  | .permissionDenied .. => "Permission denied (os error 13)"
  | .inappropriateType .. => "Is a directory (os error 21)"
  | e => e.toString

/-- The bytes of a file, or why it has none. -/
def readFile (path : String) : IO (Except String (List UInt8)) := do
  try
    return .ok (← IO.FS.readBinFile path).toList
  catch e => return .error (fileCause e)

/-- Write a text and see to it that it is seen. -/
def write (text : String) : IO Unit := do
  let out ← IO.getStdout
  out.putStr text
  out.flush

/-- Whether the user puts an end to the program within some milliseconds. -/
def interruptedWithin (interrupt : Signal.Waiter) (milliseconds : Nat) : IO Bool := do
  let wait : Async Bool := do
    Selectable.one #[
      .case interrupt.selector fun _ => return true,
      .case (← Selector.sleep (.ofNat milliseconds)) fun _ => return false]
  wait.block

/-- A part of the program has broken down. -/
def breakDown (part : Part) : IO UInt32 := do
  IO.eprint part.complaint
  return part.code.toUInt32

/-- Print a log until it is over. -/
partial def printLog (interrupt : Signal.Waiter) (config : Config) (url : Url) (p : Printing) :
    IO UInt32 := do
  let some range := p.request? | return 0
  let answer ← fetch config.timeout? url range
  let now ← IO.monoMsNow
  let some p := p.handle? now (.fetched answer) | breakDown .tail
  let some (text, p) := p.look? | breakDown .printer
  write text
  match p.verdict with
  | .done => return 0
  | .failed failure =>
    IO.eprint (Complaint.ofFailure failure).text
    return 1
  | .broken part => breakDown part
  | .continues =>
    if ← interruptedWithin interrupt (p.due now - now) then return 0
    let some next := p.handle? (← IO.monoMsNow) .poll | breakDown .tail
    printLog interrupt config url next

def complain (c : Complaint) : IO UInt32 := do
  IO.eprint c.text
  return 1

def tail (o : TailOptions) : IO UInt32 := do
  let contents ← match o.config with
    | some path => readFile path
    | none => pure (.ok [])
  match o.prepare fun _ => contents with
  | .error c => complain c
  | .ok (config, url) =>
    let interrupt ← Signal.Waiter.mk .sigint false
    printLog interrupt config url (Printing.launch config url o.offset (← IO.monoMsNow))

def index (o : IndexOptions) : IO UInt32 := do
  match o.prepare with
  | .error c => complain c
  | .ok url =>
    match o.report url (← fetch (Config.timeout? {}) url Index.latestRange) with
    | .error c => complain c
    | .ok text =>
      write text
      return 0

/-- Tell the user something else than was asked for, and the code to end with. -/
def interrupted (i : Interruption) : IO UInt32 := do
  let outcome := Outcome.ofInterruption i
  write outcome.output
  IO.eprint outcome.complaint
  return outcome.code.toUInt32

end RangeTail.Program

def main (args : List String) : IO UInt32 := do
  match RangeTail.CommandLine.parse args with
  | .error i => RangeTail.Program.interrupted i
  | .ok (.tail o) => RangeTail.Program.tail o
  | .ok (.index o) => RangeTail.Program.index o
