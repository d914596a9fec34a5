/-
# CommandLine.Arguments — what a command line asks for

The arguments are read from left to right at two levels: options in front of the
command, then the command's own options and operands. The logging options may
stand at either level, and what the inner level says counts. Reading stops at the
first argument that has no place, or where help is asked for.

A value that stands in an argument of its own is looked at when the next argument
is taken up; a command name is no such argument, so help on a command is given
whatever stands in front of it.
-/
import VirtualHosting.Descriptor

namespace VirtualHosting.CommandLine

set_option autoImplicit false

/-- What help can be asked on. -/
inductive Topic where
  | program
  | check
  | resolve
  | help
  deriving DecidableEq, Repr

/-- Why a command line leads to no task. -/
inductive Stop where
  /-- It is not understood. -/
  | usage
  | help (topic : Topic)
  deriving DecidableEq, Repr

/-- What to do with a descriptor. -/
inductive Task where
  | check
  | resolve (url : String) (version : Option String)
  deriving DecidableEq, Repr

/-- A command line that is understood. -/
structure Invocation where
  logLevel : Option String := none
  logFormat : Option LogFormat := none
  config : String
  task : Task
  deriving DecidableEq, Repr

/-! ## Values -/

/-- What a value is given for. -/
inductive Field where
  | logLevel
  | logFormat
  | version
  | config
  | url
  deriving DecidableEq, Repr

/-- The values given at one level. -/
structure Given where
  logLevel : Option String := none
  logFormat : Option LogFormat := none
  version : Option String := none
  config : Option String := none
  url : Option String := none
  deriving DecidableEq, Repr

/-- Whether a field has its value. -/
def Given.has (g : Given) : Field → Bool
  | .logLevel => g.logLevel.isSome
  | .logFormat => g.logFormat.isSome
  | .version => g.version.isSome
  | .config => g.config.isSome
  | .url => g.url.isSome

/-- Gives a field its value, if it has none and takes this one. A file has a name. -/
def Given.put? (g : Given) (field : Field) (value : String) : Option Given :=
  if g.has field then none
  else match field with
    | .logLevel => some { g with logLevel := some value }
    | .logFormat => (LogFormat.ofName? value).map fun format => { g with logFormat := some format }
    | .version => some { g with version := some value }
    | .config => if value = "" then none else some { g with config := some value }
    | .url => some { g with url := some value }

/-! ## Single arguments -/

/-- What an argument is by itself. -/
inductive Shape where
  | help
  /-- An option whose value is the next argument. -/
  | option (field : Field)
  /-- An option together with its value. -/
  | valued (field : Field) (value : String)
  /-- The mark after which everything is an operand. -/
  | endOfOptions
  | operand
  | unknown
  deriving DecidableEq, Repr

/-- Whether an argument can be the value of the option before it. -/
def canBeValue (arg : String) : Bool :=
  arg = "-" || !Text.startsWith "-" arg

/-- The shape of an argument where these options are known. -/
def shapeOf (options : List (String × Field)) (arg : String) : Shape :=
  if arg = "--" then .endOfOptions
  else if canBeValue arg then .operand
  else if Text.startsWith "--" arg then
    let name := Text.before '=' arg
    let value := (Text.fromFirst? '=' arg).map (Text.dropLength "=")
    match options.lookup name, value with
    | some field, none => .option field
    | some field, some value => .valued field value
    | none, none => if name = "--help" then .help else .unknown
    | none, some _ => .unknown
  else if Text.startsWith "-h" arg then .help
  else .unknown

/-! ## Levels -/

/-- Where arguments are read: the options known there, the operands expected, and
whether a command comes after them. -/
structure Level where
  topic : Topic
  options : List (String × Field)
  operands : List Field
  hasCommands : Bool := false

def loggingOptions : List (String × Field) :=
  [("--log-level", .logLevel), ("--log-format", .logFormat)]

def programLevel : Level where
  topic := .program
  options := loggingOptions
  operands := []
  hasCommands := true

def checkLevel : Level where
  topic := .check
  options := loggingOptions
  operands := [.config]

def resolveLevel : Level where
  topic := .resolve
  options := ("--version", .version) :: loggingOptions
  operands := [.config, .url]

/-- What has been read at a level: the values looked at, the one that waits to
be, and the operands still expected. -/
structure Progress where
  given : Given := {}
  waiting : Option (Field × String) := none
  expected : List Field

namespace Progress

/-- Looks at the value that waits. -/
def settled (p : Progress) : Except Stop Progress :=
  match p.waiting with
  | none => .ok p
  | some (field, value) =>
    match p.given.put? field value with
    | some given => .ok { p with given, waiting := none }
    | none => .error .usage

/-- Takes a value up. -/
def take (p : Progress) (field : Field) (value : String) : Except Stop Progress := do
  return { (← p.settled) with waiting := some (field, value) }

/-- Takes operands up, as many as there are. -/
def takeOperands (p : Progress) : List String → Except Stop Progress
  | [] => .ok p
  | arg :: rest =>
    match p.expected with
    | [] => .error .usage
    | field :: expected => do takeOperands { (← p.take field arg) with expected } rest

end Progress

/-- Reads a level up to the command's name, if it has commands, or else to the
end. Also answers the arguments from the command's name on. -/
def readLevel (level : Level) : Progress → List String → Except Stop (Progress × List String)
  | p, [] => .ok (p, [])
  | p, arg :: rest =>
    match shapeOf level.options arg with
    | .unknown => .error .usage
    | .help => do
      let _ ← p.settled
      .error (.help level.topic)
    | .valued field value => do readLevel level (← (← p.take field value).settled) rest
    | .option field =>
      match rest with
      | [] => .error .usage
      | value :: rest =>
        if canBeValue value then do readLevel level (← p.take field value) rest
        else .error .usage
    | .endOfOptions =>
      if level.hasCommands then .error .usage else do return (← p.takeOperands rest, [])
    | .operand =>
      match p.expected with
      | [] => if level.hasCommands then .ok (p, arg :: rest) else .error .usage
      | field :: expected => do readLevel level { (← p.take field arg) with expected } rest

/-- Reads all arguments of a command. -/
def readCommand (level : Level) (args : List String) : Except Stop Given := do
  let (p, _) ← readLevel level { expected := level.operands } args
  return (← p.settled).given

/-- What the help command is asked on. -/
def helpTopic : List String → Stop
  | [] => .help .program
  | ["check"] => .help .check
  | ["resolve"] => .help .resolve
  | ["help"] => .help .help
  | _ => .usage

/-- The invocation that both levels make up. -/
def combine (outer inner : Given) (task : Given → Option Task) : Except Stop Invocation :=
  match inner.config, task inner with
  | some config, some task =>
    .ok { logLevel := inner.logLevel <|> outer.logLevel
          logFormat := inner.logFormat <|> outer.logFormat
          config, task }
  | _, _ => .error .usage

/-- Reads a command line. -/
def read (args : List String) : Except Stop Invocation := do
  let (p, args) ← readLevel programLevel { expected := [] } args
  match args with
  | "help" :: args => .error (helpTopic args)
  | "check" :: args =>
    let inner ← readCommand checkLevel args
    combine (← p.settled).given inner fun _ => some .check
  | "resolve" :: args =>
    let inner ← readCommand resolveLevel args
    combine (← p.settled).given inner fun g => g.url.map (.resolve · g.version)
  | _ => .error .usage

end VirtualHosting.CommandLine
