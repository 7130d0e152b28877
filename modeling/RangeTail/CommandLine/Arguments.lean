import RangeTail.LogFormat
import RangeTail.Text.Cut
import RangeTail.Text.Decimal

/-!
This module contains the arguments of the command line: options, which begin with a dash and of
which some take a value, and words. The first word names a command; what follows belongs to it.
After two dashes alone all arguments are words.
-/

namespace RangeTail.CommandLine

/-- What there is a page of help about. -/
inductive Topic where
  | program
  | tail
  | index
  | help
  deriving DecidableEq, Repr

/-- The options of all commands. -/
inductive Flag where
  | follow
  | offset
  | chunkSize
  | config
  | role
  | logFormat
  | help
  | version
  deriving DecidableEq, Repr

namespace Flag

def name : Flag → String
  | .follow => "follow"
  | .offset => "offset"
  | .chunkSize => "chunk-size"
  | .config => "config"
  | .role => "role"
  | .logFormat => "log-format"
  | .help => "help"
  | .version => "version"

def letter? : Flag → Option Char
  | .follow => some 'f'
  | .help => some 'h'
  | .version => some 'V'
  | _ => none

def takesValue : Flag → Bool
  | .follow | .help | .version => false
  | _ => true

/-- Whether a value is one that the option can take. -/
def admits (f : Flag) (value : String) : Bool :=
  match f with
  | .offset | .chunkSize => (Text.readOffset value.toList).isSome
  | .config => value ≠ ""
  | .logFormat => value ∈ [LogFormat.text.name, LogFormat.json.name]
  | _ => true

end Flag

namespace Topic

/-- The options that can be given. -/
def flags : Topic → List Flag
  | .program => [.logFormat, .help, .version]
  | .tail => [.follow, .offset, .chunkSize, .config, .logFormat, .help]
  | .index => [.role, .logFormat, .help]
  | .help => []

/-- The command that a word names. -/
def ofWord? : String → Option Topic
  | "tail" => some .tail
  | "index" => some .index
  | "help" => some .help
  | _ => none

/-- The option that a name stands for. -/
def long? (t : Topic) (name : String) : Option Flag :=
  t.flags.find? (·.name = name)

/-- The option that a letter stands for. -/
def short? (t : Topic) (letter : Char) : Option Flag :=
  t.flags.find? (·.letter? = some letter)

end Topic

/-- Why arguments are refused. -/
inductive Refusal where
  | noCommand
  | unknownCommand (word : String)
  | unexpected (argument : String)
  | repeated (flag : Flag)
  | valueMissing (flag : Flag)
  | badValue (flag : Flag) (value : String)
  | wordMissing (topic : Topic)
  deriving DecidableEq, Repr

/-- What keeps arguments from being read to their end. -/
inductive Interruption where
  /-- A page of help is asked for. -/
  | help (topic : Topic)
  /-- The version is asked for. -/
  | version
  | refused (reason : Refusal)
  deriving DecidableEq, Repr

/-- The arguments that have been read. -/
structure Given where
  flags : List (Flag × String) := []
  words : List String := []
  deriving DecidableEq, Repr

namespace Given

/-- Take an option; no option can be given twice. -/
def addFlag (g : Given) (topic : Topic) (f : Flag) (value : String) : Except Interruption Given :=
  match f with
  | .help => .error (.help topic)
  | .version => .error .version
  | f =>
    if g.flags.any (·.1 = f) then .error (.refused (.repeated f))
    else if f.admits value then .ok { g with flags := g.flags ++ [(f, value)] }
    else .error (.refused (.badValue f value))

/-- Take letters after one dash, each an option without a value. -/
def addLetters (g : Given) (topic : Topic) : List Char → Except Interruption Given
  | [] => .ok g
  | c :: cs =>
    match topic.short? c with
    | none => .error (.refused (.unexpected (String.singleton c)))
    | some f => do (← g.addFlag topic f "").addLetters topic cs

/-- Take a word; no command takes more than one. -/
def addWord (g : Given) (word : String) : Except Interruption Given :=
  if g.words = [] then .ok { g with words := [word] }
  else .error (.refused (.unexpected word))

def addWords (g : Given) : List String → Except Interruption Given
  | [] => .ok g
  | w :: ws => do (← g.addWord w).addWords ws

def value? (g : Given) (f : Flag) : Option String :=
  g.flags.lookup f

def number? (g : Given) (f : Flag) : Option Nat :=
  (g.value? f).bind fun v => Text.readOffset v.toList

end Given

/-- The forms of an argument. -/
inductive Shape where
  /-- Two dashes alone. -/
  | dashes
  /-- The name of an option, and a value after an equals sign. -/
  | long (name : String) (value : Option String)
  | short (letters : List Char)
  | word

def Shape.of (argument : String) : Shape :=
  match argument.toList with
  | ['-', '-'] => .dashes
  | '-' :: '-' :: rest =>
    match Text.cutAt '=' rest with
    | some (name, value) => .long (String.ofList name) (some (String.ofList value))
    | none => .long (String.ofList rest) none
  | '-' :: c :: cs => .short (c :: cs)
  | _ => .word

/-- Whether an argument can be the value of the option before it. -/
def isWord (argument : String) : Bool :=
  match Shape.of argument with
  | .word => true
  | _ => false

/-- Read arguments; those of the program itself only up to the name of a command. -/
def scan (topic : Topic) (g : Given) : List String → Except Interruption (Given × List String)
  | [] => .ok (g, [])
  | arg :: rest =>
    match Shape.of arg with
    | .dashes => do return (← g.addWords rest, [])
    | .word =>
      if topic = .program then .ok (g, arg :: rest)
      else do scan topic (← g.addWord arg) rest
    | .short letters => do scan topic (← g.addLetters topic letters) rest
    | .long name value =>
      match topic.long? name with
      | none => .error (.refused (.unexpected arg))
      | some f =>
        match f.takesValue, value with
        | false, none => do scan topic (← g.addFlag topic f "") rest
        | false, some v => .error (.refused (.badValue f v))
        | true, some v => do scan topic (← g.addFlag topic f v) rest
        | true, none =>
          match rest with
          | v :: rest =>
            if isWord v then do scan topic (← g.addFlag topic f v) rest
            else .error (.refused (.valueMissing f))
          | [] => .error (.refused (.valueMissing f))

/-- What the command that prints a log is to do. -/
structure TailOptions where
  url : String
  follow : Bool := false
  offset : Option Nat := none
  chunkSize : Option Nat := none
  /-- The path of the file that holds the settings. -/
  config : Option String := none
  deriving DecidableEq, Repr

/-- What the command that lists an index is to do. -/
structure IndexOptions where
  base : String
  role : String := ""
  deriving DecidableEq, Repr

/-- What the program is to do. -/
inductive Invocation where
  | tail (options : TailOptions)
  | index (options : IndexOptions)
  deriving DecidableEq, Repr

/-- The one word that a command cannot do without. -/
def onlyWord (topic : Topic) (g : Given) : Except Interruption String :=
  g.words.head?.elim (.error (.refused (.wordMissing topic))) .ok

/-- The page of help that words name, which are a command at most. -/
def helpTopic : List String → Interruption
  | [] => .help .program
  | [w] => (Topic.ofWord? w).elim (.refused (.unknownCommand w)) .help
  | w :: v :: _ => (Topic.ofWord? w).elim (.refused (.unknownCommand w))
      fun _ => .refused (.unknownCommand v)

/-- Read the arguments of a command. -/
def parseCommand (topic : Topic) (args : List String) : Except Interruption Invocation := do
  let (g, _) ← scan topic {} args
  let word ← onlyWord topic g
  if topic = .index then
    return .index { base := word, role := (g.value? .role).getD "" }
  else
    return .tail {
      url := word
      follow := (g.value? .follow).isSome
      offset := g.number? .offset
      chunkSize := g.number? .chunkSize
      config := g.value? .config }

/-- Read the arguments of the program. -/
def parse (args : List String) : Except Interruption Invocation := do
  match ← scan .program {} args with
  | (g, []) =>
    match g.words with
    | [] => throw (.refused .noCommand)
    | w :: _ => throw (.refused (.unexpected w))
  | (_, w :: rest) =>
    match Topic.ofWord? w with
    | none => throw (.refused (.unknownCommand w))
    | some .help => throw (helpTopic rest)
    | some topic => parseCommand topic rest

end RangeTail.CommandLine
