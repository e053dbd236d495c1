import PluginHost.Settings.Environment
import PluginHost.Text.Lowercase

/-
This file holds the profiles between which settings differ.
-/

namespace PluginHost

inductive Profile where
  | development
  | production
  | custom (title : String)
deriving DecidableEq, Repr, Inhabited

namespace Profile

def name : Profile → String
  | .development => "development"
  | .production => "production"
  | .custom title => title

def debug : Profile → String
  | .development => "Development"
  | .production => "Production"
  | .custom title => "Custom(" ++ Text.quoted title ++ ")"

/-- The case of a name does not matter, and the two known profiles have short names. -/
def ofName (text : String) : Profile :=
  match Text.lowercase text with
  | "production" => .production
  | "prod" => .production
  | "development" => .development
  | "dev" => .development
  | title => .custom title

/-- The variable that names the profile. -/
def variableName : String := "TESSERA_PROFILE"

def ofEnvironment (environment : Environment) : Profile :=
  (environment.find? variableName).elim .development ofName

end Profile

end PluginHost
