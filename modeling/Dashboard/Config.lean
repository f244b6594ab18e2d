import Dashboard.FileSystem
import Dashboard.Store
import Dashboard.TomlReader

/-!
# Configuration

What a user sets up in a file: where the layout is kept, whether it is kept at all, and what a
reset leaves. Everything may be left out, and nothing else may be there.
-/
namespace Dashboard

/-- The configuration of the program. -/
structure Config where
  /-- The directory in which the layout is kept. -/
  stateDir : Option Path := none
  /-- Whether the layout is kept. Otherwise it lasts as long as the program runs. -/
  persist : Bool := true
  layout : LayoutSettings := {}
deriving DecidableEq, Repr

/-- Why a configuration cannot be used. -/
inductive ConfigError where
  | unreadable (file : Path)
  | invalid (file : Path)
deriving DecidableEq, Repr

namespace ConfigError

def message : ConfigError → String
  | .unreadable file => "failed to read config file " ++ file.text
  | .invalid file => "invalid config file " ++ file.text

end ConfigError

namespace LayoutSettings

def ofTable? : TomlTable → Option LayoutSettings
  | [] => some {}
  | [("default_widget", .text widget)] => some { defaultWidget := widget }
  | _ => none

/-- Reads settings from a value: a table, or an array that lists the settings without their keys.
What else the array holds does not count. -/
def ofValue? : TomlValue → Option LayoutSettings
  | .table _ members => ofTable? members
  | .array [] => some {}
  | .array (.text widget :: _) => some { defaultWidget := widget }
  | _ => none

end LayoutSettings

namespace Config

/-- The name of the directories that belong to the program. -/
def appDirectory : String := "labdash"

def setMember? (c : Config) : String × TomlValue → Option Config
  | ("state_dir", .text dir) => some { c with stateDir := some ⟨dir⟩ }
  | ("persist", .bool persist) => some { c with persist }
  | ("layout", v) => (LayoutSettings.ofValue? v).map fun layout => { c with layout }
  | _ => none

def parse? (text : String) : Option Config :=
  (Toml.read? text).bind fun members => members.foldlM setMember? {}

/-- Reads a configuration file. Without one the configuration is the default. -/
def read (files : FileSystem) (file : Path) : Except ConfigError Config :=
  match files.readText file with
  | .ok text =>
      match parse? text with
      | some c => .ok c
      | none => .error (.invalid file)
  | .error .missing => .ok {}
  | .error .refused => .error (.unreadable file)

end Config

/-- The variables of the environment that tell where files belong. -/
structure Environment where
  /-- The variable `HOME`. -/
  home : Option String := none
  /-- The variable `XDG_CONFIG_HOME`. -/
  configHome : Option String := none
  /-- The variable `XDG_DATA_HOME`. -/
  dataHome : Option String := none
  /-- The home directory that the system knows for the user. -/
  accountHome : Option String := none
deriving DecidableEq, Repr

namespace Environment

def homeDir? (e : Environment) : Option Path :=
  match e.home with
  | none | some "" => e.accountHome.map Path.mk
  | some dir => some ⟨dir⟩

/-- A directory that a variable names by an absolute path, and that otherwise is found in the home
directory. -/
def dirOr? (e : Environment) (setting : Option String) (inHome : String) : Option Path :=
  match setting.map Path.mk with
  | some dir => if dir.isAbsolute then some dir else e.homeDir?.map (·.join inHome)
  | none => e.homeDir?.map (·.join inHome)

def configFile? (e : Environment) : Option Path :=
  (e.dirOr? e.configHome ".config").map fun dir =>
    (dir.join Config.appDirectory).join "config.toml"

/-- Where the layout is kept unless the configuration says otherwise. -/
def stateDir? (e : Environment) : Option Path :=
  (e.dirOr? e.dataHome ".local/share").map (·.join Config.appDirectory)

end Environment

def Config.stateDirIn? (c : Config) (e : Environment) : Option Path := c.stateDir <|> e.stateDir?

end Dashboard
