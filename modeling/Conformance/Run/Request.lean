import Conformance.Report.Rendering
/-!
# The command line

The arguments of the program name a command through one or two words and give it options. They are read from
left to right, and the first that does not fit ends the reading. Help ends it too, wherever it is asked for;
the version is shown in place of the command once all arguments have been read.
-/

namespace Conformance

/-! ## Commands -/

/-- What the program can do. -/
inductive Subcommand where
  | plan
  | run
  | workflow
  | validate
deriving DecidableEq, Repr

/-- An option with a value. -/
inductive Flag where
  | config
  | baseUrl
  | format
deriving DecidableEq, Repr

def Flag.name : Flag → String
  | .config => "--config"
  | .baseUrl => "--base-url"
  | .format => "--format"

/-- The options of a subcommand. -/
def Subcommand.flags : Subcommand → List Flag
  | .plan | .workflow => [.config, .format]
  | .run => [.config, .baseUrl, .format]
  | .validate => [.config]

/-- The options that were given. -/
structure Options where
  config : Option String
  baseUrl : Option String
  format : Option Format
deriving DecidableEq, Repr

/-- No options. -/
def Options.none : Options := ⟨.none, .none, .none⟩

/-- An option was given before. -/
def Options.has (o : Options) : Flag → Bool
  | .config => o.config.isSome
  | .baseUrl => o.baseUrl.isSome
  | .format => o.format.isSome

/-- Adds an option; none if the option cannot have the value. -/
def Options.set? (o : Options) (value : String) : Flag → Option Options
  | .config => if value.isEmpty then .none else some { o with config := some value }
  | .baseUrl => some { o with baseUrl := some value }
  | .format => (Format.ofLabel? value).map fun f => { o with format := some f }

/-- What the arguments ask for. -/
inductive Request where
  | perform (subcommand : Subcommand) (options : Options)
  | version
  | help (text : String)
deriving DecidableEq, Repr

/-! ## Words -/

/-- How far the words of a command have been read. -/
inductive Level where
  | program
  | matrix
  | workflow
  | config
  | subcommand (subcommand : Subcommand)
deriving DecidableEq, Repr

/-- The level a word leads to. -/
def Level.enter? : Level → String → Option Level
  | .program, "matrix" => some .matrix
  | .program, "workflow" => some .workflow
  | .program, "config" => some .config
  | .matrix, "plan" => some (.subcommand .plan)
  | .matrix, "run" => some (.subcommand .run)
  | .workflow, "run" => some (.subcommand .workflow)
  | .config, "validate" => some (.subcommand .validate)
  | _, _ => none

/-- The options that can be given at a level. -/
def Level.flags : Level → List Flag
  | .subcommand c => c.flags
  | _ => []

/-! ## Reading -/

/-- Why arguments cannot be read. -/
inductive Misuse where
  | unexpected (argument : String)
  | repeated (name : String)
  | noValue (flag : Flag)
  | badValue (flag : Flag) (value : String)
  | incomplete
deriving DecidableEq, Repr

/-- The outline of the command line. -/
def usage : String := "Usage: compliance-harness [OPTIONS] [COMMAND]"

def Misuse.text (m : Misuse) : String :=
  "error: " ++ (match m with
    | .unexpected argument => "unexpected argument '" ++ argument ++ "' found"
    | .repeated name => "the argument '" ++ name ++ "' cannot be used multiple times"
    | .noValue flag => "a value is required for '" ++ flag.name ++ "' but none was supplied"
    | .badValue flag value => "invalid value '" ++ value ++ "' for '" ++ flag.name ++ "'"
    | .incomplete => "a subcommand is required but one was not provided") ++
    "\n\n" ++ usage ++ "\n"

/-- The text shown when help is asked for. -/
def helpText : String :=
  Text.join "\n" [
    "Plans and runs a compliance matrix against a service, and replays submission workflows.",
    "",
    usage,
    "",
    "Commands:",
    "  matrix plan      Print the expected outcome of every check",
    "  matrix run       Exercise the target and judge its answers",
    "  workflow run     Replay the built-in and configured scenarios",
    "  config validate  Check a configuration file",
    "",
    "Options:",
    "  --config <PATH>    Configuration file",
    "  --base-url <URL>   Target of a matrix run",
    "  --format <FORMAT>  Output format: text or json",
    "  --version          Print version information",
    "  -h, --help         Print help",
    ""]

/-- What has been read so far. -/
structure Reading where
  level : Level
  options : Options
  /-- the version was asked for at any level, and at this one -/
  version : Bool
  versionHere : Bool

/-- Asks for help: the long option alone, or a cluster of short ones that starts with it. -/
def asksHelp (argument : String) : Bool := argument == "--help" || argument.startsWith "-h"

/-- Looks like an option, so it is no value of another one. -/
def looksLikeFlag (argument : String) : Bool := argument.startsWith "-" && argument != "-"

/-- The option an argument names, with the value attached to it behind an equals sign. -/
def Level.flag? (l : Level) (argument : String) : Option (Flag × Option String) :=
  let name := String.ofList (argument.toList.takeWhile (· != '='))
  (l.flags.find? fun f => f.name == name).map fun f =>
    (f, if name == argument then none else some (String.ofList (argument.toList.drop (name.length + 1))))

/-- Adds an option with its value. -/
def Reading.give (r : Reading) (f : Flag) (value : String) : Except Misuse Reading :=
  if r.options.has f then .error (.repeated f.name)
  else
    match r.options.set? value f with
    | some options => .ok { r with options := options }
    | none => .error (.badValue f value)

/-- Reads the arguments that are left. Nothing comes of a reading that ends with help. -/
def Reading.continue (r : Reading) : List String → Except Misuse (Option Reading)
  | [] => .ok (some r)
  | "--" :: [] => .ok (some r)
  | "--" :: argument :: _ => .error (.unexpected argument)
  | argument :: rest =>
    if asksHelp argument then .ok none
    else if argument = "--version" then
      if r.versionHere then .error (.repeated argument)
      else Reading.continue { r with version := true, versionHere := true } rest
    else
      match r.level.flag? argument with
      | some (f, some value) => (r.give f value).bind fun r => r.continue rest
      | some (f, none) =>
        match rest with
        | value :: rest =>
          if looksLikeFlag value then .error (.noValue f)
          else (r.give f value).bind fun r => r.continue rest
        | [] => .error (.noValue f)
      | none =>
        match r.level.enter? argument with
        | some level => Reading.continue { r with level := level, versionHere := false } rest
        | none => .error (.unexpected argument)

/-- What a whole reading asks for. -/
def Reading.request (r : Reading) : Except Misuse Request :=
  match r.level, r.version with
  | .subcommand _, true | .program, true => .ok .version
  | .subcommand c, false => .ok (.perform c r.options)
  | .program, false => .ok (.help helpText)
  | .matrix, _ | .workflow, _ | .config, _ => .error .incomplete

/-- What the arguments ask for. -/
def Request.ofArguments (arguments : List String) : Except Misuse Request :=
  (Reading.continue ⟨.program, .none, false, false⟩ arguments).bind fun reading =>
    match reading with
    | some r => r.request
    | none => .ok (.help helpText)

end Conformance
