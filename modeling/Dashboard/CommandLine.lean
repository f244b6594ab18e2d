import Dashboard.Arguments
import Dashboard.Config
import Dashboard.FileStore

/-!
# The command line

One run of the program as a function: from arguments, environment, files and a source of tokens to
what is written and to the files as they are afterwards. The store is started before the request
is looked at, so even a request that only shows something can remove a kept layout that is
refused.
-/
namespace Dashboard

/-- Why a run fails. -/
inductive RunError where
  | config (error : ConfigError)
  | noStateDir
  | unreadable (file : Path)
  | notLayout (file : Path)
  | refused (error : LayoutError)
deriving DecidableEq, Repr

namespace RunError

def message : RunError → String
  | .config e => e.message
  | .noStateDir => "no state directory available, pass --state-dir"
  | .unreadable file => "failed to read " ++ file.text
  | .notLayout file => file.text ++ " is not a layout tree"
  | .refused e => e.message

end RunError

/-- What a run leaves to be seen. -/
structure Outcome where
  code : Nat
  stdout : String := ""
  stderr : String := ""
  log : List Event := []

namespace Outcome

def ofResult (log : List Event) : Except RunError String → Outcome
  | .ok stdout => { code := 0, stdout, log }
  | .error e => { code := 1, stderr := "Error: " ++ e.message ++ "\n", log }

end Outcome

namespace CommandLine

def helpText : String := "\n".intercalate
  ["Inspect and rearrange the dashboard layout", "",
    "Usage: labdash [OPTIONS] <COMMAND>", "",
    "Commands:",
    "  show     Print the current layout as a tree",
    "  panes    List the panes of the current layout",
    "  widgets  List the widget types that can be added",
    "  add      Add a pane next to the top-left pane",
    "  split    Split an existing pane, placing a new one after it",
    "  remove   Remove a pane; its sibling takes over the space",
    "  preset   Replace the layout with a built-in preset",
    "  reset    Leave a single pane of the configured default widget",
    "  default  Restore the default layout",
    "  replace  Install a layout read from a JSON file",
    "  help     Print this message", "",
    "Options:",
    "      --config <CONFIG>        Config file",
    "      --state-dir <STATE_DIR>  Directory holding the layout snapshot; overrides the config",
    "  -h, --help                   Print help",
    "  -V, --version                Print version", ""]

def versionText : String := "labdash 0.1.0\n"

def layoutText : Layout → String
  | none => "(empty layout)\n"
  | some n => n.draw

def tableText (rows : List (List String)) : String :=
  String.join (rows.map fun row => "\t".intercalate row ++ "\n")

variable {σ β : Type} [TokenSource σ] [KeyValueStore β]

/-- Carries out a command and prints the layout to which it leads. -/
def change (s : Store σ β) (c : Command) : Except RunError String × Store σ β :=
  match s.handle c with
  | (.error e, s) => (.error (.refused e), s)
  | (.ok (), s) => (.ok (layoutText s.layout), s.reportDrawing)

def layoutIn (files : FileSystem) (file : Path) : Except RunError Layout :=
  match files.readText file with
  | .error _ => .error (.unreadable file)
  | .ok text =>
      match Layout.read? text with
      | none => .error (.notLayout file)
      | some l => .ok l

/-- Answers a request. `filesOf` are the files as they are while the store is open. -/
def answer (filesOf : β → FileSystem) (s : Store σ β) :
    Request → Except RunError String × Store σ β
  | .show => (.ok (layoutText s.layout), s)
  | .panes true => (.ok (s.stateData.toJson.indented ++ "\n"), s)
  | .panes false =>
      (.ok (tableText (s.panes.map fun p => [p.id.text, Named.name p.widget, p.title])), s)
  | .widgets =>
      (.ok (tableText
        (Widget.menu.map fun w => [Named.name w, Named.name w.category, w.title])), s)
  | .add widget => change s (.addWidget widget)
  | .split target widget direction => change s (.addWidgetAt target widget direction)
  | .remove id => change s (.removeWidget id)
  | .preset preset => change s (.loadPreset preset)
  | .reset => change s .resetToMinimal
  | .default => change s .loadDefaultLayout
  | .replace file =>
      match layoutIn (filesOf s.backend) file with
      | .error e => (.error e, s)
      | .ok layout => change s (.replaceTree layout)

def serve (filesOf : β → FileSystem) (backend : β) (tokens : σ) (settings : LayoutSettings)
    (request : Request) : Outcome × β × σ :=
  let (result, s) := answer filesOf (Store.bootstrap backend tokens settings) request
  (Outcome.ofResult s.log result, s.backend, s.tokens)

def configOf (files : FileSystem) (e : Environment) (i : Invocation) : Except ConfigError Config :=
  match i.config <|> e.configFile? with
  | none => .ok {}
  | some file => Config.read files file

def runInvocation (files : FileSystem) (e : Environment) (tokens : σ) (i : Invocation) :
    Outcome × FileSystem × σ :=
  match configOf files e i with
  | .error error => (Outcome.ofResult [] (.error (.config error)), files, tokens)
  | .ok config =>
      if config.persist then
        match i.stateDir <|> config.stateDirIn? e with
        | none => (Outcome.ofResult [] (.error .noStateDir), files, tokens)
        | some dir =>
            let (outcome, backend, tokens) :=
              serve FileStore.files ⟨dir, files⟩ tokens config.layout i.request
            (outcome, backend.files, tokens)
      else
        let (outcome, _, tokens) :=
          serve (fun (_ : MemoryStore) => files) {} tokens config.layout i.request
        (outcome, files, tokens)

/-- Runs the program. -/
def run (files : FileSystem) (e : Environment) (tokens : σ) (args : List String) :
    Outcome × FileSystem × σ :=
  match Parsed.ofArguments args with
  | .run i => runInvocation files e tokens i
  | .help => ({ code := 0, stdout := helpText }, files, tokens)
  | .version => ({ code := 0, stdout := versionText }, files, tokens)
  | .misuse => ({ code := 2, stderr := helpText }, files, tokens)

end CommandLine
end Dashboard
