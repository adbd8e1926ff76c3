import SdlWorkbench.Text.Basic
/-!
The command line: what a run is asked to do.

Arguments are read from left to right on two levels, first the options before the name of the command
and then the options and arguments after it.  Some options are known on both levels, and what is said
after the name wins.  The value of an option is looked at when the next option of its level has been
read, or at the end of the level, so a request for help that comes first is granted.
-/

namespace SdlWorkbench

inductive OutputFormat where
  | human
  | json
  | plain
deriving DecidableEq

inductive Shell where
  | bash
  | zsh
  | fish
  | powershell
  | elvish
deriving DecidableEq

inductive Command where
  | parse (paths : List Text) (print : Bool)
  | format (paths : List Text) (check : Bool)
  | edit (file script : Text) (write : Bool)
  | inspect (file : Text) (type : Option Text)
  | completions (shell : Shell)
deriving DecidableEq

structure Invocation where
  config : Option Text
  format : OutputFormat
  quiet : Bool
  command : Command
deriving DecidableEq

/-- The variables of the environment that a run looks at. -/
structure Environment where
  config : Option Text := none
  configHome : Option Text := none
  home : Option Text := none
  noColor : Option Text := none
deriving DecidableEq

inductive LineStop where
  | information
  | usage
deriving DecidableEq

def LineStop.exitCode : LineStop → Nat
  | information => 0
  | usage => 2

def OutputFormat.ofName? (name : Text) : Option OutputFormat :=
  [("human", human), ("json", json), ("plain", plain)].lookup (String.ofList name)

def Shell.ofName? (name : Text) : Option Shell :=
  [("bash", bash), ("zsh", zsh), ("fish", fish), ("powershell", powershell),
    ("elvish", elvish)].lookup (String.ofList name)

inductive LineOption where
  | config
  | format
  | verbose
  | quiet
  | noColor
  | help
  | version
  | print
  | check
  | script
  | write
  | type
deriving DecidableEq

namespace LineOption

def longName : LineOption → Text
  | config => "config".toList
  | format => "format".toList
  | verbose => "verbose".toList
  | quiet => "quiet".toList
  | noColor => "no-color".toList
  | help => "help".toList
  | version => "version".toList
  | print => "print".toList
  | check => "check".toList
  | script => "script".toList
  | write => "write".toList
  | type => "type".toList

def letter? : LineOption → Option Char
  | config => some 'c'
  | verbose => some 'v'
  | quiet => some 'q'
  | help => some 'h'
  | version => some 'V'
  | script => some 's'
  | write => some 'w'
  | type => some 't'
  | _ => none

def takesValue (option : LineOption) : Bool :=
  option ∈ [config, format, script, type]

/-- Whether an option may be given more than once on a level. -/
def isRepeatable (option : LineOption) : Bool :=
  option = verbose

def asksForInformation (option : LineOption) : Bool :=
  option ∈ [help, version]

/-- Whether a value may be given to an option.  A path is not empty. -/
def accepts (value : Text) : LineOption → Bool
  | config => value ≠ []
  | script => value ≠ []
  | format => (OutputFormat.ofName? value).isSome
  | _ => true

def common : List LineOption :=
  [config, format, verbose, quiet, noColor, help, version]

end LineOption

structure LineLevel where
  known : List LineOption := LineOption.common
  /-- The options given so far with their values; an option without a value has an empty one, and one
  that may be given more than once is here once. -/
  given : List (LineOption × Text) := []
  arguments : List Text := []

namespace LineLevel

def has (level : LineLevel) (option : LineOption) : Bool :=
  (level.given.lookup option).isSome

def check (level : LineLevel) : Except LineStop Unit :=
  if level.given.all fun entry => entry.1.accepts entry.2 &&
      (level.given.filter fun other => other.1 = entry.1).length = 1 then
    .ok ()
  else .error .usage

/-- Adds an option after a look at the options before it.  One that may be given more than once says
nothing new the second time. -/
def add (level : LineLevel) (option : LineOption) (value : Text) : Except LineStop LineLevel := do
  level.check
  if option.asksForInformation then throw .information
  if option.isRepeatable && level.has option then return level
  return { level with given := level.given ++ [(option, value)] }

def addChecked (level : LineLevel) (option : LineOption) (value : Text) :
    Except LineStop LineLevel := do
  let level ← level.add option value
  level.check
  return level

/-- Reads what follows two hyphens.  The answer names the option whose value is the next argument. -/
def readLong (level : LineLevel) (text : Text) :
    Except LineStop (LineLevel × Option LineOption) :=
  let name := text.takeWhile (· ≠ '=')
  match level.known.find? fun option => option.longName = name, text.drop name.length with
  | none, _ => .error .usage
  | some option, [] =>
      if option.takesValue then return (level, some option)
      else return (← level.addChecked option [], none)
  | some option, _ :: value =>
      if option.takesValue then return (← level.addChecked option value, none)
      else .error .usage

/-- Reads the letters that follow one hyphen.  The letters after an option that takes a value are the
value, with or without an equals sign. -/
def readLetters (level : LineLevel) : Text → Except LineStop (LineLevel × Option LineOption)
  | [] => .ok (level, none)
  | letter :: rest =>
      match level.known.find? fun option => option.letter? = some letter with
      | none => .error .usage
      | some option =>
          if option.takesValue then
            match rest with
            | [] => return (level, some option)
            | '=' :: value => return (← level.addChecked option value, none)
            | value => return (← level.addChecked option value, none)
          else do (← level.addChecked option []).readLetters rest

/-- Whether an argument is read as an option.  A hyphen alone is not. -/
def isOption (argument : Text) : Bool :=
  argument.head? = some '-' && argument ≠ ['-']

def readOption (level : LineLevel) (argument : Text) :
    Except LineStop (LineLevel × Option LineOption) :=
  match argument with
  | '-' :: '-' :: text => level.readLong text
  | _ => level.readLetters argument.tail

end LineLevel

inductive CommandName where
  | parse
  | format
  | edit
  | inspect
  | completions
deriving DecidableEq

namespace CommandName

def ofText? (text : Text) : Option CommandName :=
  [("parse", parse), ("fmt", format), ("edit", edit), ("inspect", inspect),
    ("completions", completions)].lookup (String.ofList text)

def options : CommandName → List LineOption
  | parse => [.print]
  | format => [.check]
  | edit => [.script, .write]
  | inspect => [.type]
  | completions => []

def limit? : CommandName → Option Nat
  | parse => none
  | format => none
  | _ => some 1

/-- Whether a text may be an argument of a command.  A path is not empty. -/
def accepts (argument : Text) : CommandName → Bool
  | completions => (Shell.ofName? argument).isSome
  | _ => argument ≠ []

def addArgument (name : CommandName) (level : LineLevel) (argument : Text) :
    Except LineStop LineLevel := do
  level.check
  if name.accepts argument && name.limit?.all fun limit => level.arguments.length < limit then
    return { level with arguments := level.arguments ++ [argument] }
  else throw .usage

/-- Reads the arguments after the name of a command.  What follows two hyphens alone is no option. -/
def readLevel (name : CommandName) (level : LineLevel) (arguments : List Text) :
    Except LineStop LineLevel :=
  match arguments with
  | [] => .ok level
  | ['-', '-'] :: rest => rest.foldlM name.addArgument level
  | argument :: rest =>
      if LineLevel.isOption argument then
        match level.readOption argument with
        | .error stop => .error stop
        | .ok (level, none) => name.readLevel level rest
        | .ok (level, some option) =>
            match rest with
            | [] => .error .usage
            | value :: rest =>
                if LineLevel.isOption value then .error .usage
                else
                  match level.add option value with
                  | .error stop => .error stop
                  | .ok level => name.readLevel level rest
      else
        match name.addArgument level argument with
        | .error stop => .error stop
        | .ok level => name.readLevel level rest
termination_by arguments.length

def command (name : CommandName) (level : LineLevel) : Except LineStop Command :=
  match name, level.arguments with
  | parse, paths => .ok (.parse paths (level.has .print))
  | format, paths => .ok (.format paths (level.has .check))
  | edit, [file] =>
      match level.given.lookup .script with
      | some script => .ok (.edit file script (level.has .write))
      | none => .error .usage
  | inspect, [file] => .ok (.inspect file (level.given.lookup .type))
  | completions, [shell] =>
      match Shell.ofName? shell with
      | some shell => .ok (.completions shell)
      | none => .error .usage
  | _, _ => .error .usage

end CommandName

namespace LineLevel

/-- Looks at a level that has been read to its end.  An option that is not given takes its value from
the environment, where a path is not empty either, and a switch is on or off in words. -/
def finish (environment : Environment) (level : LineLevel) : Except LineStop Unit := do
  level.check
  if level.has .quiet && level.has .verbose then throw .usage
  if !level.has .config && environment.config = some [] then throw .usage
  if !level.has .noColor && environment.noColor.any fun value =>
      value ≠ "true".toList && value ≠ "false".toList then
    throw .usage

def helpTopic : List Text → LineStop
  | [] => .information
  | [topic] =>
      if (CommandName.ofText? topic).isSome || topic = "help".toList then .information else .usage
  | _ => .usage

/-- Reads the arguments before the name of the command, and then the others.  The answer holds both
levels. -/
def readLevels (level : LineLevel) (arguments : List Text) :
    Except LineStop (LineLevel × CommandName × LineLevel) :=
  match arguments with
  | [] => .error .usage
  | argument :: rest =>
      match CommandName.ofText? argument with
      | some name => do
          let own ← name.readLevel { known := LineOption.common ++ name.options } rest
          return (level, name, own)
      | none =>
          if argument = "help".toList then .error (helpTopic rest)
          else if isOption argument then
            match level.readOption argument with
            | .error stop => .error stop
            | .ok (level, none) => level.readLevels rest
            | .ok (level, some option) =>
                match rest with
                | [] => .error .usage
                | value :: rest =>
                    if isOption value then .error .usage
                    else
                      match level.add option value with
                      | .error stop => .error stop
                      | .ok level => level.readLevels rest
          else .error .usage
termination_by arguments.length

end LineLevel

namespace Invocation

def ofArguments (environment : Environment) (arguments : List Text) :
    Except LineStop Invocation := do
  let (common, name, own) ← LineLevel.readLevels {} arguments
  own.finish environment
  let command ← name.command own
  common.finish environment
  let value? (option : LineOption) := (own.given.lookup option).or (common.given.lookup option)
  return {
    config := (value? .config).or environment.config
    format := ((value? .format).bind OutputFormat.ofName?).getD .human
    quiet := own.has .quiet || common.has .quiet
    command }

end Invocation

end SdlWorkbench
