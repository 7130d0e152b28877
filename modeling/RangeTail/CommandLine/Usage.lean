import RangeTail.CommandLine.Arguments
import RangeTail.Version

/-!
This module contains the pages of help.
-/

namespace RangeTail.CommandLine

/-- The line that tells the version. -/
def versionLine : String :=
  s!"logtail {version}\n"

namespace Flag

def summary : Flag → String
  | .follow => "Keep polling until interrupted"
  | .offset => "Start at this byte offset instead of the end"
  | .chunkSize => "Bytes per range request"
  | .config => "TOML configuration file"
  | .role => "Role substring, or '-' for records outside any role [default: ]"
  | .logFormat => "Diagnostics format on stderr [default: text] [possible values: text, json]"
  | .help => "Print help"
  | .version => "Print version"

/-- An option as it is given. -/
def form (f : Flag) : String :=
  f.letter?.elim "    " (fun c => "-" ++ String.singleton c ++ ", ") ++ "--" ++ f.name
    ++ (if f.takesValue then " <" ++ f.name ++ ">" else "")

end Flag

namespace Topic

def summary : Topic → String
  | .program => "Tail remote append-only logs over HTTP range requests"
  | .tail => "Print a log, optionally following new writes"
  | .index => "List deployment index records"
  | .help => "Print this message or the help of the given subcommand(s)"

def usage : Topic → String
  | .program => "logtail [OPTIONS] <COMMAND>"
  | .tail => "logtail tail [OPTIONS] <url>"
  | .index => "logtail index [OPTIONS] <base-url>"
  | .help => "logtail help [COMMAND]..."

/-- What may stand after the options, with a summary of each. -/
def words : Topic → String × List (String × String)
  | .program => ("Commands", [("tail", summary .tail), ("index", summary .index),
      ("help", summary .help)])
  | .tail => ("Arguments", [("<url>", "Log file URL")])
  | .index => ("Arguments", [("<base-url>", "Cluster base URL")])
  | .help => ("Arguments", [("[COMMAND]...", "Print help for the subcommand(s)")])

end Topic

/-- Names and summaries under a heading, in two columns. -/
def columns (heading : String) (rows : List (String × String)) : String :=
  let width := (rows.map (·.1.length)).foldl max 0
  if rows = [] then ""
  else "\n" ++ heading ++ ":\n" ++ String.join (rows.map fun (name, summary) =>
    "  " ++ name ++ String.ofList (List.replicate (width - name.length) ' ') ++ "  " ++ summary
      ++ "\n")

/-- A page of help. -/
def Topic.page (t : Topic) : String :=
  t.summary ++ "\n\nUsage: " ++ t.usage ++ "\n" ++ columns t.words.1 t.words.2
    ++ columns "Options" (t.flags.map fun f => (f.form, f.summary))

end RangeTail.CommandLine
