/-
# CommandLine.Help — what the program says about itself

* `text_ne_empty`: there is something to say on every topic.
-/
import VirtualHosting.CommandLine.Arguments

namespace VirtualHosting.CommandLine

set_option autoImplicit false

/-- The lines on the options, one each, with what they are for in one column. -/
def levelOption : String :=
  "      --log-level <LOG_LEVEL>    Log level, overriding the descriptor (RUST_LOG still wins)"

def formatOption : String :=
  "      --log-format <LOG_FORMAT>  Log output format, overriding the descriptor " ++
    "[possible values: pretty, json]"

def versionOption : String :=
  "      --version <VERSION>        Application version to prefer when several are deployed"

def helpOption : String :=
  "  -h, --help                     Print help"

/-- The lines on a topic. -/
def Topic.lines : Topic → List String
  | program =>
    ["Resolve requests against a deployment descriptor",
      "",
      "Usage: request-mapper [OPTIONS] <COMMAND>",
      "",
      "Commands:",
      "  check    Validate a descriptor and summarise what it deploys",
      "  resolve  Resolve a URL against a descriptor",
      "  help     Print this message or the help of the given subcommand(s)",
      "",
      "Options:", levelOption, formatOption, helpOption]
  | check =>
    ["Validate a descriptor and summarise what it deploys",
      "",
      "Usage: request-mapper check [OPTIONS] <CONFIG>",
      "",
      "Arguments:",
      "  <CONFIG>  ",
      "",
      "Options:", levelOption, formatOption, helpOption]
  | resolve =>
    ["Resolve a URL against a descriptor",
      "",
      "Usage: request-mapper resolve [OPTIONS] <CONFIG> <URL>",
      "",
      "Arguments:",
      "  <CONFIG>  ",
      "  <URL>     ",
      "",
      "Options:", levelOption, versionOption, formatOption, helpOption]
  | help =>
    ["Print this message or the help of the given subcommand(s)",
      "",
      "Usage: request-mapper help [COMMAND]...",
      "",
      "Arguments:",
      "  [COMMAND]...  Print help for the subcommand(s)"]

/-- What is printed on a topic. -/
def Topic.text (topic : Topic) : String :=
  String.intercalate "\n" topic.lines ++ "\n"

theorem text_ne_empty (topic : Topic) : topic.text ≠ "" := by
  intro nothing
  have := congrArg String.toList nothing
  simp [Topic.text] at this

end VirtualHosting.CommandLine
