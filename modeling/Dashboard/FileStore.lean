import Dashboard.FileSystem
import Dashboard.KeyValueStore

/-!
# Keeping texts in files

The backend that keeps every text in a file of its own in one directory. The directory is created
when something is first written. Keys are restricted to characters that are harmless in the name
of a file, so that no key leads out of the directory.
-/
namespace Dashboard

/-- A directory of a file system, used as a backend. -/
structure FileStore where
  dir : Path
  files : FileSystem

namespace FileStore

def isKeyChar (c : Char) : Bool := c.isAlphanum || c = '_' || c = '-'

def isValidKey (key : String) : Bool := !key.toList.isEmpty && key.toList.all isKeyChar

/-- The file in which the text under a key is kept. -/
def pathFor (s : FileStore) (key : String) : Except PersistError Path :=
  if isValidKey key then .ok (s.dir.join (key ++ ".json")) else .error (.invalidKey key)

/-- The text under a key. Where there is no file there is no text. -/
def get (key : String) (s : FileStore) : Except PersistError (Option String) :=
  match s.pathFor key with
  | .error e => .error e
  | .ok path =>
      match s.files.readText path with
      | .ok text => .ok (some text)
      | .error .missing => .ok none
      | .error .refused => .error (.inaccessible path)

/-- Writes the text under a key: creates the directory, empties the file, fills it. -/
def set (key value : String) (s : FileStore) : Except PersistError Unit × FileStore :=
  match s.pathFor key with
  | .error e => (.error e, s)
  | .ok path =>
      match s.files.createDirectory s.dir with
      | (.error _, files) => (.error (.inaccessible s.dir), { s with files })
      | (.ok (), files) =>
          match files.createFile path with
          | (.error _, files) => (.error (.inaccessible path), { s with files })
          | (.ok (), files) =>
              match files.writeFile path value.toUTF8 with
              | (.error _, files) => (.error (.inaccessible path), { s with files })
              | (.ok (), files) => (.ok (), { s with files })

/-- Removes the file of a key, if there is one. -/
def remove (key : String) (s : FileStore) : Except PersistError Unit × FileStore :=
  match s.pathFor key with
  | .error e => (.error e, s)
  | .ok path =>
      match s.files.removeFile path with
      | (.error .refused, files) => (.error (.inaccessible path), { s with files })
      | (.error .missing, files) | (.ok (), files) => (.ok (), { s with files })

instance : KeyValueStore FileStore where
  get key s := (s.get key, s)
  set := set
  remove := remove

end FileStore
end Dashboard
