import PluginHost.Discovery
import PluginHost.Gateway.Plugins
import PluginHost.Log.Destination
import PluginHost.Log.Layout
import PluginHost.Startup

/-
This file runs the gateway as a command: it reads the arguments, starts a host over the plugins of
the gateway, and gathers what the run leaves on its outputs and in its log file.
-/

namespace PluginHost.Gateway

structure Options where
  file : Option String := none
  profile : Option String := none
deriving DecidableEq, Repr

/-- The options that take a value. -/
inductive Flag where
  | config
  | profile
deriving DecidableEq, Repr

namespace Flag

def all : List Flag := [.config, .profile]

def long : Flag → String
  | .config => "config"
  | .profile => "profile"

def short : Flag → Char
  | .config => 'c'
  | .profile => 'p'

end Flag

/-- An option may be given once, and no path is empty. -/
def Options.set? (options : Options) (flag : Flag) (value : String) : Option Options :=
  match flag with
  | .config =>
    if options.file.isSome || value.isEmpty then none else some { options with file := some value }
  | .profile =>
    if options.profile.isSome then none else some { options with profile := some value }

/-- What one argument is on its own. -/
inductive Argument where
  | option (flag : Flag) (value : Option String)
  | help
  | unknown
deriving DecidableEq, Repr

namespace Argument

/-- The value of a long option stands behind an equals sign or in the next argument. -/
def ofLong (chars : List Char) : Argument :=
  let name := String.ofList (chars.takeWhile (· != '='))
  let value := match chars.dropWhile (· != '=') with
    | _ :: value => some (String.ofList value)
    | [] => none
  match Flag.all.find? fun flag => flag.long == name with
  | some flag => .option flag value
  | none => if name = "help" && value.isNone then .help else .unknown

/-- The value of a short option may follow without an equals sign. -/
def ofShort (name : Char) (chars : List Char) : Argument :=
  let value := match chars with
    | [] => none
    | '=' :: value => some (String.ofList value)
    | value => some (String.ofList value)
  match Flag.all.find? fun flag => flag.short == name with
  | some flag => .option flag value
  | none => if name = 'h' then .help else .unknown

def ofText (text : String) : Argument :=
  match text.toList with
  | '-' :: '-' :: chars => ofLong chars
  | '-' :: name :: chars => ofShort name chars
  | _ => .unknown

/-- A lone dash is a value, everything else with a dash in front is not. -/
def isValue (text : String) : Bool := !text.startsWith "-" || text == "-"

end Argument

inductive Command where
  | run (options : Options)
  | help
  | refused
deriving DecidableEq, Repr

/-- The first argument that asks for help or that is wrong decides. -/
def Command.ofArguments (options : Options) : List String → Command
  | [] => .run options
  | ["--"] => .run options
  | argument :: rest =>
    match Argument.ofText argument, rest with
    | .help, _ => .help
    | .unknown, _ => .refused
    | .option flag (some value), rest =>
      match options.set? flag value with
      | some options => Command.ofArguments options rest
      | none => .refused
    | .option _ none, [] => .refused
    | .option flag none, value :: rest =>
      if Argument.isValue value then
        match options.set? flag value with
        | some options => Command.ofArguments options rest
        | none => .refused
      else .refused

/-- What a run leaves behind. -/
structure Result where
  code : Nat := 0
  output : List String := []
  errors : List String := []
  file : Option (Log.LogFile × List String) := none

/-- A carriage return at the end belongs to the end of the line. -/
def Result.withoutReturn (line : String) : String :=
  if line.endsWith "\r" then String.ofList line.toList.dropLast else line

/-- A text may hold several lines. -/
def Result.lines (texts : List String) : List String :=
  texts.flatMap fun text => (text.splitOn "\n").map Result.withoutReturn

def helpText : List String :=
  ["Boots a gateway from link-time registered plugins", "", "Usage: gateway [OPTIONS]", "",
    "Options:", "  -c, --config <CONFIG>    Configuration file (TOML by default)",
    "  -p, --profile <PROFILE>  Configuration profile, e.g. \x60dev\x60 or \x60prod\x60",
    "  -h, --help               Print help"]

def moduleName : String := "gateway"

def loader (options : Options) (environment : Environment) : Loader :=
  let loader := (Loader.create environment).searchWorkingDirectory
  { loader with
    file := options.file
    profile := (options.profile.map Profile.ofName).getD loader.profile }

/-- The interceptors that stand before the service, and before an exchange without a service. -/
def chainEvent (point : InterceptPoint) (handled proxied : List String) : Log.Event :=
  let names (names : List String) := Log.Field.shown (Text.bracketed (names.map Text.quoted))
  event moduleName "Interceptor chains"
    [("point", .quoted point.name), ("handled", names handled), ("proxied", names proxied)]

def tellChain (host : Host) (point : InterceptPoint) : Host :=
  let (handled, registry) := host.registry.interceptorsFor (some Ping.name) point
  let (proxied, registry) := registry.interceptorsFor none point
  { host with
    registry := registry.report
      (chainEvent point (handled.map Record.name) (proxied.map Record.name)) }

/-- Starts a host over the plugins of the gateway and tells what is in place. -/
def serve (settings : Settings) : Host :=
  let discovery := (Catalogue.ofLinked (candidates moduleName)).discovery
  let host := (Host.create discovery settings {}).boot.2.finishStartup.2
  let host := [InterceptPoint.requestAfterAuth, .response].foldl tellChain host
  let (stats, host) := host.stats
  host.report (event moduleName stats.text [])

/-- Nothing is logged before the settings are known. -/
def start (settings : Settings) (surroundings : Surroundings) : Result :=
  let setup := Log.Setup.ofSettings settings.logging
  let (destination, problems) := setup.destination surroundings.disk
  let said := Result.lines (setup.complaints ++ problems)
  let log := Result.lines
    (setup.write (setup.filter surroundings.environment) [] (serve settings).registry.world.log)
  match destination with
  | .stdout => { output := log, errors := said }
  | .stderr => { errors := said ++ log }
  | .file file => { errors := said, file := some (file, log) }

def run (options : Options) (surroundings : Surroundings) : Result :=
  match ((loader options surroundings.environment).load surroundings).1 with
  | .ok settings => start settings surroundings
  | .error error => { code := 1, errors := Result.lines ["Error: " ++ error.message] }

def Command.result (command : Command) (surroundings : Surroundings) : Result :=
  match command with
  | .run options => Gateway.run options surroundings
  | .help => { output := helpText }
  | .refused => { code := 2 }

end PluginHost.Gateway
