import RangeTail.Text.Alphanumeric
import RangeTail.Text.Blank
import RangeTail.Text.Cut
import RangeTail.Text.Decimal

/-!
This module contains the settings of the diagnostics: their form and which of them are wanted.
-/

namespace RangeTail

/-- The form of the diagnostics. -/
inductive LogFormat where
  | text
  | json
  deriving DecidableEq, Repr, Inhabited

namespace LogFormat

def name : LogFormat → String
  | .text => "text"
  | .json => "json"

/-- The form that a word names, in letters of any case. -/
def parse (word : String) : Except String LogFormat :=
  let lower := String.ofList (word.toList.map Char.toLower)
  if lower = "text" then .ok .text
  else if lower = "json" then .ok .json
  else .error s!"unknown log format '{lower}', expected text or json"

end LogFormat

namespace LogFilter

/-- Why a filter cannot be used. -/
inductive Error where
  /-- A directive is not built as directives are. -/
  | directive
  /-- A level has no such name. -/
  | level
  deriving DecidableEq, Repr

def Error.message : Error → String
  | .directive => "invalid filter directive"
  | .level => "error parsing level filter: expected one of \"off\", \"error\", \"warn\", \"info\", \"debug\", \"trace\", or a number 0-5"

/-- The levels that a filter can name. -/
def levels : List String := ["off", "error", "warn", "info", "debug", "trace"]

/-- Whether a text names a level, by its name in letters of any case or by its number. -/
def isLevel (s : List Char) : Bool :=
  levels.any (fun l => Text.eqIgnoreCase s l.toList) || (Text.readOffset s).any (· ≤ 5)

/-- The level that may follow the brackets of a span. -/
def levelAfterSpan : List Char → Except Error (Option (List Char))
  | [] => .ok none
  | '=' :: level => .ok (some level)
  | _ => .error .directive

/-- The level behind a span, whose opening bracket is past: its name, and a field of it in braces. -/
def levelOfSpan (s : List Char) : Except Error (Option (List Char)) :=
  match s.dropWhile fun c => !(c == ']' || c == '\x7b') with
  | ']' :: rest => levelAfterSpan rest
  | '\x7b' :: s =>
    match Text.cutAt '\x7d' s with
    | some (_ :: _, ']' :: rest) => levelAfterSpan rest
    | _ => .error .directive
  | _ => .error .directive

/-- Whether a directive can begin with a character. -/
def canBegin (c : Char) : Bool :=
  c == '-' || c == ':' || c == '_' || Text.isAlphanumeric c

/-- The level in a directive: it follows a target, a span, or a target and a span of it. -/
def levelOf : List Char → Except Error (Option (List Char))
  | [] => .error .directive
  | '[' :: s => levelOfSpan s
  | c :: s =>
    if !canBegin c then .error .directive
    else
      match s.dropWhile fun c => !(c == '=' || c == '[') with
      | '=' :: level => .ok (some level)
      | '[' :: s => levelOfSpan s
      | _ => .ok none

/--
A directive. Its level is taken with the blanks after it, and it cannot be found behind blanks; all
else is without the blanks around it.
-/
def check (directive : List Char) : Except Error Unit := do
  let s := Text.trimStart directive
  let core := Text.trim directive
  match ← levelOf core with
  | none => return ()
  | some level =>
    let level := level ++ s.drop core.length
    if s ≠ directive ∨ !(level = [] ∨ isLevel level) then throw .level

/-- A filter: directives between commas, of which empty ones do not count. -/
def checkAll (filter : String) : Except Error Unit :=
  ((Text.splitOn ',' filter.toList).filter (· ≠ [])).forM check

end LogFilter

namespace Diagnostics

/-- Why diagnostics cannot be switched on. -/
inductive Error where
  | format (message : String)
  | setup (message : String)
  deriving DecidableEq, Repr

/-- Switch diagnostics on in a process in which they have been switched on before. -/
def switchOnAgain (filter : Option String) (format : String) : Error :=
  match LogFormat.parse format with
  | .error message => .format message
  | .ok _ =>
    match filter.elim (.ok ()) LogFilter.checkAll with
    | .error e => .setup e.message
    | .ok () => .setup "a global default trace dispatcher has already been set"

end Diagnostics
end RangeTail
