/-!
# Paths

Paths as texts, with slashes between the names of directories. A path is taken apart into
components only when a file system looks it up; until then it keeps the spelling in which it was
given, which is the one that messages show.
-/
namespace Dashboard

/-- The spelling of a path. -/
structure Path where
  text : String
deriving DecidableEq, Repr

/-- One step of a path. -/
inductive Component where
  /-- The directory itself. -/
  | here
  /-- The directory above. -/
  | parent
  /-- An entry of the directory. -/
  | name (s : String)
deriving DecidableEq, Repr

namespace Path

def isAbsolute (p : Path) : Bool := p.text.toList.head? = some '/'

/-- Appends a path to a directory. A slash is put between the two unless there already is one, and
an absolute path replaces the directory. -/
def join (dir : Path) (path : String) : Path :=
  if isAbsolute ⟨path⟩ then ⟨path⟩
  else
    match dir.text.toList.getLast? with
    | none | some '/' => ⟨dir.text ++ path⟩
    | some _ => ⟨dir.text ++ "/" ++ path⟩

def segments : List Char → List (List Char)
  | [] => [[]]
  | c :: cs =>
      if c = '/' then [] :: segments cs
      else
        match segments cs with
        | [] => [[c]]
        | s :: ss => (c :: s) :: ss

/-- The step that a segment stands for. Empty segments stand for none. -/
def componentOf? : List Char → Option Component
  | [] => none
  | ['.'] => some .here
  | ['.', '.'] => some .parent
  | cs => some (.name (String.ofList cs))

def components (p : Path) : List Component :=
  (segments p.text.toList).filterMap componentOf?

/-- Whether a path ends in a slash, as only the path of a directory may. -/
def endsInSlash (p : Path) : Bool := p.text.toList.getLast? = some '/'

example : (join ⟨"a"⟩ "b").text = "a/b" ∧ (join ⟨"a/"⟩ "b").text = "a/b" := by decide +kernel
example : (join ⟨"a"⟩ "").text = "a/" ∧ (join ⟨"a"⟩ "/b").text = "/b" := by decide +kernel
example : components ⟨"/a//./b/../c/"⟩ =
    [.name "a", .here, .name "b", .parent, .name "c"] := by decide +kernel

end Path
end Dashboard
