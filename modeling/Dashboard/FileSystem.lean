import Dashboard.Path

/-!
# File systems

A file system as a value: what is found at every location. Its operations are the single steps of
which reading and writing consist (find, create a directory, create or empty a file, fill it,
remove it), because a sequence of them can fail half way. Failures come from the contents, or from
a device that refuses an action wherever it is tried.
-/
namespace Dashboard

/-- A place in a file system: the names that lead there from the root, the last one first. Their
number is kept beside them, so that places of different depths are told apart at once. -/
structure Location where
  names : List String := []
  depth : Nat := names.length
  depth_eq : depth = names.length := by rfl

namespace Location

/-- The place where every path starts that does not start at the working directory. -/
def root : Location := {}

def entry (place : Location) (name : String) : Location where
  names := name :: place.names
  depth := place.depth + 1
  depth_eq := by rw [place.depth_eq, List.length_cons]

/-- The directory above a place. Above the root there is the root itself. -/
def parent (place : Location) : Location where
  names := place.names.tail
  depth := place.depth - 1
  depth_eq := by rw [place.depth_eq, List.length_tail]

/-- Places with the same names are the same. -/
theorem eq_of_names_eq {a b : Location} (h : a.names = b.names) : a = b := by
  obtain ⟨names, depth, hd⟩ := a
  obtain ⟨names', depth', hd'⟩ := b
  subst h hd hd'
  rfl

instance : DecidableEq Location := fun a b =>
  if hd : a.depth = b.depth then
    if hn : a.names = b.names then isTrue (eq_of_names_eq hn)
    else isFalse fun h => hn (congrArg names h)
  else isFalse fun h => hd (congrArg depth h)

end Location

/-- What is found at a location. -/
inductive Entry where
  | directory
  | file (bytes : ByteArray)

/-- What can be done with files. -/
inductive FileAction where
  | read
  | makeDirectory
  | createFile
  | writeFile
  | removeFile
deriving DecidableEq, Repr

/-- Why an action failed. Only one distinction matters: whether there is nothing at the place. -/
inductive FileError where
  | missing
  | refused
deriving DecidableEq, Repr

/-- A file system, with the directory at which relative paths start. -/
structure FileSystem where
  entries : Location → Option Entry := fun _ => none
  workingDirectory : Location := .root
  /-- The length in bytes that the name of an entry may have, if there is a limit. -/
  nameLimit : Option Nat := some 255
  /-- The length in bytes that a path may have, if there is a limit. -/
  pathLimit : Option Nat := some 4095
  /-- The actions that the device refuses. -/
  refuses : FileAction → Bool := fun _ => false

namespace FileSystem

def allowsName (fs : FileSystem) (name : String) : Bool :=
  fs.nameLimit.all (name.utf8ByteSize ≤ ·)

/-- Whether a path is short enough to be looked up. -/
def allowsPath (fs : FileSystem) (p : Path) : Bool := fs.pathLimit.all (p.text.utf8ByteSize ≤ ·)

/-- What is found at a location. The root is always a directory. -/
def entry? (fs : FileSystem) (place : Location) : Option Entry :=
  if place = .root then some .directory else fs.entries place

def put (fs : FileSystem) (place : Location) (e : Entry) : FileSystem :=
  { fs with entries := fun p => if p = place then some e else fs.entries p }

def erase (fs : FileSystem) (place : Location) : FileSystem :=
  { fs with entries := fun p => if p = place then none else fs.entries p }

/-- Checks that a location is a directory, as it has to be for any step from there. -/
def enter (fs : FileSystem) (place : Location) : Except FileError Unit :=
  match fs.entry? place with
  | none => .error .missing
  | some .directory => .ok ()
  | some (.file _) => .error .refused

def step (fs : FileSystem) (place : Location) (c : Component) : Except FileError Location := do
  fs.enter place
  match c with
  | .here => .ok place
  | .parent => .ok place.parent
  | .name s => if fs.allowsName s then .ok (place.entry s) else .error .refused

/-- Where a path starts. The empty path leads nowhere, and a path that is too long or has a null
character is refused. -/
def origin (fs : FileSystem) (p : Path) : Except FileError Location :=
  if p.text.isEmpty then .error .missing
  else if !fs.allowsPath p || '\x00' ∈ p.text.toList then .error .refused
  else if p.isAbsolute then .ok .root
  else .ok fs.workingDirectory

/-- The location of a path. All directories on the way have to exist, but nothing has to be there
unless the path ends in a slash. -/
def locate (fs : FileSystem) (p : Path) : Except FileError Location := do
  let place ← p.components.foldlM fs.step (← fs.origin p)
  if p.endsInSlash then fs.step place .here else .ok place

def readBytes (fs : FileSystem) (p : Path) : Except FileError ByteArray := do
  let place ← fs.locate p
  if fs.refuses .read then .error .refused
  match fs.entry? place with
  | none => .error .missing
  | some .directory => .error .refused
  | some (.file bytes) => .ok bytes

/-- The text of a file. A file that is not UTF-8 cannot be read as text. -/
def readText (fs : FileSystem) (p : Path) : Except FileError String := do
  match String.fromUTF8? (← fs.readBytes p) with
  | some s => .ok s
  | none => .error .refused

/-- Takes the given steps from a location and creates the directories that are missing on the way.
Those that have been created before a failure stay. A directory is not created for the sake of
steps to itself alone, with which a path may end. -/
def createAlong (fs : FileSystem) (place : Location) :
    List Component → Except FileError Unit × FileSystem
  | [] => (.ok (), fs)
  | c :: cs =>
      match fs.step place c with
      | .error e => (.error e, fs)
      | .ok place =>
          match fs.entry? place with
          | some .directory => fs.createAlong place cs
          | some (.file _) => (.error .refused, fs)
          | none =>
              if cs ≠ [] ∧ cs.all (· = .here) then (.error .missing, fs)
              else if fs.refuses .makeDirectory then (.error .refused, fs)
              else (fs.put place .directory).createAlong place cs

/-- Creates a directory and the directories above it, where they are missing. The empty path needs
none. -/
def createDirectory (fs : FileSystem) (p : Path) : Except FileError Unit × FileSystem :=
  if p.text.isEmpty then (.ok (), fs)
  else
    match fs.origin p with
    | .error e => (.error e, fs)
    | .ok place => fs.createAlong place p.components

/-- Creates an empty file, or empties the one that is there. -/
def createFile (fs : FileSystem) (p : Path) : Except FileError Unit × FileSystem :=
  match fs.locate p with
  | .error e => (.error e, fs)
  | .ok place =>
      match fs.refuses .createFile, fs.entry? place with
      | true, _ | _, some .directory => (.error .refused, fs)
      | false, _ => (.ok (), fs.put place (.file .empty))

def writeFile (fs : FileSystem) (p : Path) (bytes : ByteArray) :
    Except FileError Unit × FileSystem :=
  match fs.locate p with
  | .error e => (.error e, fs)
  | .ok place =>
      match fs.refuses .writeFile, fs.entry? place with
      | true, _ | _, some .directory => (.error .refused, fs)
      | false, _ => (.ok (), fs.put place (.file bytes))

def removeFile (fs : FileSystem) (p : Path) : Except FileError Unit × FileSystem :=
  match fs.locate p with
  | .error e => (.error e, fs)
  | .ok place =>
      match fs.refuses .removeFile, fs.entry? place with
      | true, _ | _, some .directory => (.error .refused, fs)
      | false, none => (.error .missing, fs)
      | false, some (.file _) => (.ok (), fs.erase place)

end FileSystem
end Dashboard
