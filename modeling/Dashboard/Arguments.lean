import Dashboard.Path
import Dashboard.Preset

/-!
# Command-line arguments

Arguments are read on two levels: those of the program up to the name of a command, and those of
the command. Each level has options with values, switches, and a fixed list of operands, in any
order. After a double hyphen everything is an operand. The first thing that does not fit decides
the answer, and so does the first request for help.
-/
namespace Dashboard

/-- What the program is asked to do. -/
inductive Request where
  | show
  | panes (json : Bool)
  | widgets
  | add (widget : String)
  | split (target : PaneId) (widget : String) (direction : Direction)
  | remove (id : PaneId)
  | preset (preset : Preset)
  | reset
  | default
  | replace (file : Path)
deriving DecidableEq, Repr

/-- A call of the program: where its files are, as far as this is said, and a request. -/
structure Invocation where
  config : Option Path
  stateDir : Option Path
  request : Request
deriving DecidableEq, Repr

/-- What the arguments amount to. -/
inductive Parsed where
  | run (invocation : Invocation)
  | help
  | version
  /-- They do not fit. -/
  | misuse
deriving DecidableEq, Repr

/-- What may be given on one level. -/
structure ArgumentLevel where
  /-- The switches, without their hyphens. -/
  switches : List String := []
  /-- The options with values, without their hyphens, apart from those that every level has. -/
  options : List String := []
  /-- What the operands are. -/
  operands : List String := []
  /-- The commands that end the level. -/
  commands : List String := []
  /-- Whether the version may be asked for. -/
  hasVersion : Bool := false

/-- What has been given on one level. -/
structure Given where
  options : List (String × String) := []
  switches : List String := []
  operands : List String := []

/-- How the reading of a level ended. -/
inductive LevelEnd where
  | complete (given : Given)
  | command (given : Given) (name : String) (rest : List String)
  | help
  | version
  | misuse

namespace ArgumentLevel

def commonOptions : List String := ["config", "state-dir"]

/-- Whether a text will do for what it is given for. The names of files and directories may not be
empty. -/
def accepts (what value : String) : Bool :=
  match what with
  | "config" | "state-dir" | "file" => !value.isEmpty
  | "direction" => (Named.ofName? value : Option Direction).isSome
  | "preset" => (Named.ofName? value : Option Preset).isSome
  | _ => true

def addOperand? (l : ArgumentLevel) (g : Given) (value : String) : Option Given :=
  match l.operands[g.operands.length]? with
  | some what =>
      if accepts what value then some { g with operands := g.operands ++ [value] } else none
  | none => none

/-- Takes the value of an option, which may be given once. -/
def addOption? (g : Given) (name value : String) : Option Given :=
  if accepts name value && !(g.options.lookup name).isSome then
    some { g with options := g.options ++ [(name, value)] }
  else none

/-- Takes a switch, which may be given once. -/
def addSwitch? (g : Given) (name : String) : Option Given :=
  if name ∈ g.switches then none else some { g with switches := g.switches ++ [name] }

/-- Takes operands only. -/
def readOperands (l : ArgumentLevel) (g : Given) (args : List String) : LevelEnd :=
  match args.foldlM l.addOperand? g with
  | some g => .complete g
  | none => .misuse

def splitValue (cs : List Char) : String × Option String :=
  let name := String.ofList (cs.takeWhile (· ≠ '='))
  match cs.dropWhile (· ≠ '=') with
  | [] => (name, none)
  | _ :: value => (name, some (String.ofList value))

/-- Reads the arguments of a level. `waiting` is an option whose value comes next. -/
def read (l : ArgumentLevel) (g : Given) (waiting : Option String) : List String → LevelEnd
  | [] => if waiting.isSome then .misuse else .complete g
  | arg :: args =>
      match waiting, arg.toList with
      | some _, '-' :: _ :: _ => .misuse
      | some name, _ =>
          match addOption? g name arg with
          | some g => l.read g none args
          | none => .misuse
      | none, ['-', '-'] => l.readOperands g args
      | none, '-' :: '-' :: cs =>
          match splitValue cs with
          | (name, some value) =>
              if name ∈ commonOptions ++ l.options then
                match addOption? g name value with
                | some g => l.read g none args
                | none => .misuse
              else .misuse
          | (name, none) =>
              if name ∈ commonOptions ++ l.options then l.read g (some name) args
              else if name ∈ l.switches then
                match addSwitch? g name with
                | some g => l.read g none args
                | none => .misuse
              else if name = "help" then .help
              else if name = "version" ∧ l.hasVersion then .version
              else .misuse
      | none, '-' :: c :: _ =>
          if c = 'h' then .help else if c = 'V' ∧ l.hasVersion then .version else .misuse
      | none, _ =>
          if arg ∈ l.commands then .command g arg args
          else
            match l.addOperand? g arg with
            | some g => l.read g none args
            | none => .misuse

def ofCommand : String → Option ArgumentLevel
  | "show" | "widgets" | "reset" | "default" => some {}
  | "panes" => some { switches := ["json"] }
  | "add" => some { operands := ["widget"] }
  | "split" => some { options := ["direction"], operands := ["target", "widget"] }
  | "remove" => some { operands := ["id"] }
  | "preset" => some { operands := ["preset"] }
  | "replace" => some { operands := ["file"] }
  | _ => none

def commandNames : List String :=
  ["show", "panes", "widgets", "add", "split", "remove", "preset", "reset", "default", "replace"]

/-- What the program takes in front of the name of a command. -/
def program : ArgumentLevel := { commands := commandNames ++ ["help"], hasVersion := true }

end ArgumentLevel

namespace Request

/-- The request that a command makes with what has been given for it. All operands have to be
there. -/
def ofGiven? (command : String) (g : Given) : Option Request :=
  match command, g.operands with
  | "show", [] => some .show
  | "panes", [] => some (.panes ("json" ∈ g.switches))
  | "widgets", [] => some .widgets
  | "add", [widget] => some (.add widget)
  | "split", [target, widget] =>
      match g.options.lookup "direction" with
      | none => some (.split ⟨target⟩ widget .row)
      | some direction => (Named.ofName? direction).map (.split ⟨target⟩ widget)
  | "remove", [id] => some (.remove ⟨id⟩)
  | "preset", [name] => (Named.ofName? name).map .preset
  | "reset", [] => some .reset
  | "default", [] => some .default
  | "replace", [file] => some (.replace ⟨file⟩)
  | _, _ => none

end Request

namespace Parsed

/-- What the arguments after the name of a command amount to. Options that every level has count
where they are given last. -/
def ofCommand (before : Given) (command : String) (args : List String) : Parsed :=
  match ArgumentLevel.ofCommand command with
  | none => .misuse
  | some level =>
      match level.read {} none args with
      | .complete g =>
          let option (name : String) : Option Path :=
            (g.options.lookup name <|> before.options.lookup name).map Path.mk
          match Request.ofGiven? command g with
          | some request =>
              .run { config := option "config", stateDir := option "state-dir", request }
          | none => .misuse
      | .help => .help
      | .version => .version
      | .command .. | .misuse => .misuse

/-- What the arguments of the program amount to. -/
def ofArguments (args : List String) : Parsed :=
  match ArgumentLevel.program.read {} none args with
  | .command _ "help" [] => .help
  | .command _ "help" [topic] => if topic ∈ ArgumentLevel.program.commands then .help else .misuse
  | .command _ "help" _ => .misuse
  | .command before name args => ofCommand before name args
  | .complete _ | .misuse => .misuse
  | .help => .help
  | .version => .version

example : ofArguments ["add", "--", "-x"] = .run ⟨none, none, .add "-x"⟩ := by decide +kernel
example : ofArguments ["--config", "a", "show", "--config=b"] = .run ⟨some ⟨"b"⟩, none, .show⟩ := by
  decide +kernel
example : ofArguments ["add", "-x"] = .misuse ∧ ofArguments [] = .misuse := by decide +kernel

end Parsed
end Dashboard
