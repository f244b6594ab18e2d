import Dashboard.CommandLine

/-!
# The program

The outer layer of the command line. It copies the files that a run may read into a file system
value, runs the program on it, prints what there is to print, and brings the file of the kept
layout into the state in which the run has left it.
-/
namespace Dashboard.Program

/-- Copies one file, and the directories above it. What is there but cannot be read takes the form
of a directory, which cannot be read either. -/
def copyIn (files : FileSystem) (p : Path) : IO FileSystem := do
  let entry : Option Entry ←
    try
      let bytes ← IO.FS.readBinFile p.text
      pure (some (.file bytes))
    catch
      | .noFileOrDirectory .. => pure none
      | _ => pure (some .directory)
  match entry, files.origin p with
  | some entry, .ok place =>
      let files := (files.createAlong place p.components.dropLast).2
      match files.locate p with
      | .ok place => pure (files.put place entry)
      | .error _ => pure files
  | _, _ => pure files

/-- Brings one file into the state that it has in a file system value, if that state is another
than before. -/
def copyOut (before after : FileSystem) (dir p : Path) : IO Unit := do
  match before.readBytes p, after.readBytes p with
  | old, .ok bytes =>
      if old.toOption != some bytes then
        IO.FS.createDirAll dir.text
        IO.FS.writeBinFile p.text bytes
  | .ok _, .error .missing => IO.FS.removeFile p.text
  | _, _ => pure ()

def randomNumbers (count : Nat) : IO (List UInt64) := do
  let bytes ← IO.getRandomBytes (8 * count).toUSize
  pure <| (List.range count).map fun i =>
    (List.range 8).foldl (fun n j => n * 256 + (bytes.get! (8 * i + j)).toUInt64) 0

def environment : IO Environment := do
  pure
    { home := ← IO.getEnv "HOME"
      configHome := ← IO.getEnv "XDG_CONFIG_HOME"
      dataHome := ← IO.getEnv "XDG_DATA_HOME" }

/-- Whether events of a level are printed. The variable `LABDASH_LOG` names the least level;
warnings and errors are printed unless it says otherwise. -/
def isPrinted (setting : Option String) (level : Level) : Bool :=
  let rank : Level → Nat
    | .debug => 1
    | .info => 2
    | .warn => 3
    | .error => 4
  let least :=
    match setting with
    | some "off" => 5
    | some "error" => 4
    | some "info" => 2
    | some "debug" | some "trace" => 1
    | _ => 3
  least ≤ rank level

def printEvent (e : Event) : IO Unit :=
  let details := e.details.map fun (name, value) => " " ++ name ++ "=" ++ value
  IO.eprintln (Named.name e.level ++ " " ++ e.message ++ String.join details)

/-- Copies in all files that an invocation may read, and says where it keeps the layout. -/
def prepare (e : Environment) (i : Invocation) : IO (FileSystem × Option (Path × Path)) := do
  let mut files : FileSystem := {}
  if let some file := i.config <|> e.configFile? then
    files ← copyIn files file
  if let .replace file := i.request then
    files ← copyIn files file
  match CommandLine.configOf files e i with
  | .error _ => pure (files, none)
  | .ok config =>
      match i.stateDir <|> config.stateDirIn? e with
      | none => pure (files, none)
      | some dir =>
          match (FileStore.mk dir files).pathFor snapshotKey with
          | .error _ => pure (files, none)
          | .ok file => pure (← copyIn files file, some (dir, file))

def run (args : List String) : IO UInt32 := do
  let e ← environment
  let (files, kept) ←
    match Parsed.ofArguments args with
    | .run i => prepare e i
    | _ => pure ({}, none)
  let tokens : RandomTokens := ⟨← randomNumbers 4096⟩
  let (outcome, after, _) := CommandLine.run files e tokens args
  let setting ← IO.getEnv "LABDASH_LOG"
  for event in outcome.log do
    if isPrinted setting event.level then printEvent event
  if let some (dir, file) := kept then
    try copyOut files after dir file
    catch _ => printEvent (.notPersisted (.inaccessible file))
  IO.print outcome.stdout
  IO.eprint outcome.stderr
  pure outcome.code.toUInt32

end Dashboard.Program

def main (args : List String) : IO UInt32 := Dashboard.Program.run args
