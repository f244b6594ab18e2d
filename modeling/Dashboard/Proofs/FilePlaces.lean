import Dashboard.Proofs.FilePaths

/-!
# The places that a path leads through

Where a path leads is told by its text and the working directory alone: a path leads through the
same places in every file system, only that in some it cannot be followed to its end. A file in a
directory is therefore always looked up at the same place, and what is found elsewhere, apart from
the way to the directory, plays no part in what is done with the file.

To create, to fill and to remove a file are one operation, `FileSystem.edit`, with different
replacements for what is found. The statements about these operations are made about this one.
-/
namespace Dashboard

namespace Location

/-- The place to which one step leads. -/
def follow (place : Location) : Component → Location
  | .here => place
  | .parent => place.parent
  | .name s => place.entry s

/-- The places that a sequence of steps leads through, the first and the last one included. -/
def way (place : Location) : List Component → List Location
  | [] => [place]
  | c :: cs => place :: (place.follow c).way cs

theorem mem_way_self (place : Location) (cs : List Component) : place ∈ place.way cs := by
  cases cs <;> exact List.mem_cons_self

theorem foldl_follow_mem_way (place : Location) (cs : List Component) :
    cs.foldl follow place ∈ place.way cs := by
  induction cs generalizing place with
  | nil => exact List.mem_cons_self
  | cons c cs ih => exact List.mem_cons_of_mem _ (ih (place.follow c))

theorem entry_inj {place : Location} {s t : String} (h : place.entry s = place.entry t) : s = t :=
  (List.cons.inj (congrArg names h)).1

@[simp] theorem parent_entry (place : Location) (s : String) : (place.entry s).parent = place :=
  eq_of_names_eq rfl

theorem entry_ne_root (place : Location) (s : String) : place.entry s ≠ root := by
  intro h
  cases congrArg names h

end Location

namespace Path
open Location

/-- Where a path starts. -/
def start (p : Path) (workingDirectory : Location) : Location :=
  if p.isAbsolute then .root else workingDirectory

/-- Where a path ends. -/
def place (p : Path) (workingDirectory : Location) : Location :=
  p.components.foldl follow (p.start workingDirectory)

def way (p : Path) (workingDirectory : Location) : List Location :=
  (p.start workingDirectory).way p.components

theorem place_mem_way (p : Path) (workingDirectory : Location) :
    p.place workingDirectory ∈ p.way workingDirectory :=
  foldl_follow_mem_way _ _

end Path

namespace FileSystem
open Location

/-- A directory is found at the location. -/
def IsDirectory (fs : FileSystem) (place : Location) : Prop := fs.entry? place = some .directory

/-- Replaces what is found at a location, whatever it is. -/
def alter (fs : FileSystem) (p : Location) (e : Option Entry) : FileSystem :=
  { fs with entries := fun q => if q = p then e else fs.entries q }

variable {fs : FileSystem} {p q : Location} {e : Option Entry}

theorem put_eq_alter (e : Entry) : fs.put p e = fs.alter p (some e) := rfl

@[simp] theorem refuses_alter : (fs.alter p e).refuses = fs.refuses := rfl

@[simp] theorem origin_alter (path : Path) : (fs.alter p e).origin path = fs.origin path := rfl

theorem entries_alter_self : (fs.alter p e).entries p = e := if_pos rfl

theorem entries_alter_of_ne (h : q ≠ p) : (fs.alter p e).entries q = fs.entries q := if_neg h

theorem entry?_alter_of_ne (h : q ≠ p) : entry? (fs.alter p e) q = fs.entry? q := by
  unfold entry?
  rw [entries_alter_of_ne h]

theorem entry?_of_ne_root (h : p ≠ root) : fs.entry? p = fs.entries p := if_neg h

theorem alter_comm {e' : Option Entry} (h : p ≠ q) :
    (fs.alter p e).alter q e' = (fs.alter q e').alter p e := by
  simp only [alter]
  congr 1
  funext r
  by_cases hp : r = p
  · simp [hp, h]
  · simp [hp]

theorem alter_alter {e' : Option Entry} : (fs.alter p e).alter p e' = fs.alter p e' := by
  simp only [alter]
  congr 1
  funext r
  by_cases hr : r = p <;> simp [hr]

theorem alter_eq_self (h : fs.entries p = e) : fs.alter p e = fs := by
  have he : (fun q => if q = p then e else fs.entries q) = fs.entries := by
    funext r
    split
    next hr => rw [hr, h]
    next => rfl
  unfold alter
  rw [he]

theorem entries_of_entry?_eq_none (h : fs.entry? p = none) : p ≠ root ∧ fs.entries p = none := by
  unfold entry? at h
  split at h
  next => cases h
  next hr => exact ⟨hr, h⟩

/-! ## Following a path -/

@[simp] theorem ok_bind {α β : Type} (a : α) (f : α → Except FileError β) :
    (.ok a : Except FileError α) >>= f = f a := rfl

theorem bind_eq_ok_iff {α β : Type} {x : Except FileError α} {f : α → Except FileError β} {b : β} :
    x >>= f = .ok b ↔ ∃ a, x = .ok a ∧ f a = .ok b := by
  cases x with
  | error e =>
      constructor
      · intro h
        cases h
      · rintro ⟨a, ha, -⟩
        cases ha
  | ok a =>
      constructor
      · exact fun h => ⟨a, rfl, h⟩
      · rintro ⟨_, ha, h⟩
        cases ha
        exact h

section
variable {place : Location}

theorem enter_eq_ok_iff : fs.enter place = .ok () ↔ fs.IsDirectory place := by
  unfold enter IsDirectory
  cases fs.entry? place with
  | none => simp
  | some e => cases e <;> simp

theorem step_eq_ok {c : Component} (h : fs.step place c = .ok q) :
    fs.IsDirectory place ∧ q = place.follow c := by
  obtain ⟨u, he, h⟩ := bind_eq_ok_iff.mp h
  refine ⟨enter_eq_ok_iff.mp he, ?_⟩
  cases c with
  | here | parent =>
      cases h
      rfl
  | name s =>
      dsimp only at h
      split at h
      · cases h
        rfl
      · cases h

theorem foldlM_step_eq_ok {cs : List Component} (h : cs.foldlM fs.step place = .ok q) :
    q = cs.foldl follow place := by
  induction cs generalizing place with
  | nil =>
      cases h
      rfl
  | cons c cs ih =>
      obtain ⟨r, hs, h⟩ := bind_eq_ok_iff.mp h
      rw [ih h, (step_eq_ok hs).2]
      rfl

/-- A path that starts somewhere starts at the place that it does not need a file system for. -/
theorem origin_eq_ok_iff {path : Path} :
    fs.origin path = .ok q ↔
      path.text.isEmpty = false ∧ fs.allowsPath path = true ∧ '\x00' ∉ path.text.toList ∧
        path.start fs.workingDirectory = q := by
  unfold origin Path.start
  cases path.text.isEmpty <;> cases fs.allowsPath path <;> cases path.isAbsolute <;>
    by_cases hn : '\x00' ∈ path.text.toList <;> simp [hn]

end

/-! ## The file of a name -/

section
variable {dir : Path} {s : String} (h : Path.IsName s)
include h

theorem locate_join (fs : FileSystem) (dir : Path) :
    fs.locate (dir.join s) =
      fs.origin (dir.join s) >>= fun place =>
        dir.components.foldlM fs.step place >>= fun place => fs.step place (.name s) := by
  have hb (x : Except FileError Location) : (x >>= fun place => .ok place) = x := bind_pure x
  unfold locate
  rw [h.components_join, h.not_endsInSlash_join]
  simp only [List.foldlM_append, List.foldlM_cons, List.foldlM_nil, bind_pure, Bool.false_eq_true,
    if_false, hb]

theorem start_join (dir : Path) (workingDirectory : Location) :
    (dir.join s).start workingDirectory = dir.start workingDirectory := by
  unfold Path.start
  rw [h.isAbsolute_join]

/-- Wherever the file can be looked up, it is looked up at the same place. -/
theorem locate_join_eq_ok (hl : fs.locate (dir.join s) = .ok q) :
    q = (dir.place fs.workingDirectory).entry s := by
  rw [locate_join h] at hl
  obtain ⟨start, ho, hl⟩ := bind_eq_ok_iff.mp hl
  obtain ⟨place, hf, hl⟩ := bind_eq_ok_iff.mp hl
  obtain ⟨-, -, -, hp⟩ := origin_eq_ok_iff.mp ho
  rw [(step_eq_ok hl).2, foldlM_step_eq_ok hf, ← hp, start_join h]
  rfl

end

/-! ## The operations on a file -/

/-- What these operations have in common: the file is looked up, and what is found at its place is
replaced unless that is refused. -/
def edit (fs : FileSystem) (path : Path) (f : Option Entry → Except FileError (Option Entry)) :
    Except FileError Unit × FileSystem :=
  match fs.locate path with
  | .error e => (.error e, fs)
  | .ok place =>
      match f <| fs.entry? place with
      | .error e => (.error e, fs)
      | .ok e => (.ok (), fs.alter place e)

theorem workingDirectory_edit (fs : FileSystem) (path : Path)
    (f : Option Entry → Except FileError (Option Entry)) :
    (fs.edit path f).2.workingDirectory = fs.workingDirectory := by
  unfold edit
  split
  · rfl
  · split <;> rfl

/-- Puts a file in the place of another one or of nothing. -/
def filled (refused : Bool) (bytes : ByteArray) :
    Option Entry → Except FileError (Option Entry)
  | some .directory => .error .refused
  | none | some (.file _) => if refused then .error .refused else .ok (some (.file bytes))

/-- Puts nothing in the place of a file. -/
def removed (refused : Bool) : Option Entry → Except FileError (Option Entry)
  | some .directory => .error .refused
  | none => if refused then .error .refused else .error .missing
  | some (.file _) => if refused then .error .refused else .ok none

theorem createFile_eq_edit (fs : FileSystem) (path : Path) :
    fs.createFile path = fs.edit path (filled (fs.refuses .createFile) .empty) := by
  unfold createFile edit filled
  cases fs.locate path with
  | error e => rfl
  | ok place =>
      dsimp only
      rcases fs.entry? place with _ | _ | _ <;> cases fs.refuses .createFile <;> rfl

theorem writeFile_eq_edit (fs : FileSystem) (path : Path) (bytes : ByteArray) :
    fs.writeFile path bytes = fs.edit path (filled (fs.refuses .writeFile) bytes) := by
  unfold writeFile edit filled
  cases fs.locate path with
  | error e => rfl
  | ok place =>
      dsimp only
      rcases fs.entry? place with _ | _ | _ <;> cases fs.refuses .writeFile <;> rfl

theorem removeFile_eq_edit (fs : FileSystem) (path : Path) :
    fs.removeFile path = fs.edit path (removed (fs.refuses .removeFile)) := by
  unfold removeFile edit removed
  cases fs.locate path with
  | error e => rfl
  | ok place =>
      dsimp only
      rcases fs.entry? place with _ | _ | _ <;> cases fs.refuses .removeFile <;> rfl

/-- Creates or empties a file and fills it. -/
def overwrite (fs : FileSystem) (path : Path) (bytes : ByteArray) :
    Except FileError Unit × FileSystem :=
  match fs.createFile path with
  | (.error e, fs) => (.error e, fs)
  | (.ok (), fs) => fs.writeFile path bytes

/-! ## What is found elsewhere plays no part -/

section
variable {place : Location} {cs : List Component}

theorem step_alter (h : place ≠ p) (c : Component) :
    (fs.alter p e).step place c = fs.step place c := by
  unfold step enter
  rw [entry?_alter_of_ne h]
  rfl

theorem foldlM_step_alter (h : p ∉ place.way cs) :
    cs.foldlM (fs.alter p e).step place = cs.foldlM fs.step place := by
  induction cs generalizing place with
  | nil => rfl
  | cons c cs ih =>
      rw [way, List.mem_cons, not_or] at h
      rw [List.foldlM_cons, List.foldlM_cons, step_alter (Ne.symm h.1)]
      cases hs : fs.step place c with
      | error e => rfl
      | ok r =>
          have hr := (step_eq_ok hs).2
          rw [← hr] at h
          exact ih h.2

theorem createAlong_alter (h : p ∉ place.way cs) :
    (fs.alter p e).createAlong place cs =
      ((fs.createAlong place cs).1, (fs.createAlong place cs).2.alter p e) := by
  induction cs generalizing fs place with
  | nil => rfl
  | cons c cs ih =>
      rw [way, List.mem_cons, not_or] at h
      unfold createAlong
      rw [step_alter (Ne.symm h.1)]
      cases hs : fs.step place c with
      | error e => rfl
      | ok r =>
          have hr := (step_eq_ok hs).2
          rw [← hr] at h
          have hne : r ≠ p := by
            rintro rfl
            exact h.2 (mem_way_self r cs)
          simp only [entry?_alter_of_ne hne]
          split
          · exact ih h.2
          · rfl
          · split
            · rfl
            · cases hm : fs.refuses .makeDirectory with
              | true => simp only [refuses_alter, hm, if_true]
              | false =>
                  simp only [refuses_alter, hm, Bool.false_eq_true, if_false]
                  rw [put_eq_alter, put_eq_alter, alter_comm (Ne.symm hne)]
                  exact ih h.2

end

section
variable {dir : Path} (hp : p ∉ dir.way fs.workingDirectory)
include hp

theorem createDirectory_alter :
    (fs.alter p e).createDirectory dir =
      ((fs.createDirectory dir).1, (fs.createDirectory dir).2.alter p e) := by
  unfold createDirectory
  split
  · rfl
  · rw [origin_alter]
    cases h : fs.origin dir with
    | error e => rfl
    | ok place =>
        obtain ⟨-, -, -, rfl⟩ := origin_eq_ok_iff.mp h
        exact createAlong_alter hp

variable {s : String} (h : Path.IsName s)
include h

theorem locate_join_alter : (fs.alter p e).locate (dir.join s) = fs.locate (dir.join s) := by
  rw [locate_join h, locate_join h, origin_alter]
  cases hs : fs.origin (dir.join s) with
  | error e => rfl
  | ok start =>
      obtain ⟨-, -, -, rfl⟩ := origin_eq_ok_iff.mp hs
      rw [start_join h, ok_bind, ok_bind, foldlM_step_alter hp]
      cases hf : dir.components.foldlM fs.step (dir.start fs.workingDirectory) with
      | error e => rfl
      | ok place =>
          have hne : place ≠ p := by
            rintro rfl
            apply hp
            rw [foldlM_step_eq_ok hf]
            exact dir.place_mem_way _
          rw [ok_bind, ok_bind, step_alter hne]

end

section
variable {dir : Path} {s : String} (h : Path.IsName s) (hp : p ∉ dir.way fs.workingDirectory)
  (hf : p ≠ (dir.place fs.workingDirectory).entry s)
include h hp hf

/-- What is found at other places does not matter where a file is looked up. -/
theorem locate_elsewhere :
    (fs.alter p e).locate (dir.join s) = fs.locate (dir.join s) ∧
      ∀ q, fs.locate (dir.join s) = .ok q → q ≠ p := by
  refine ⟨locate_join_alter hp h, ?_⟩
  rintro q hq rfl
  exact hf (locate_join_eq_ok h hq)

theorem readText_alter : (fs.alter p e).readText (dir.join s) = fs.readText (dir.join s) := by
  obtain ⟨hl, hq⟩ := locate_elsewhere (e := e) h hp hf
  unfold readText readBytes
  rw [hl]
  cases hs : fs.locate (dir.join s) with
  | error e => rfl
  | ok q => simp only [ok_bind, entry?_alter_of_ne (hq q hs), refuses_alter]

theorem edit_alter (f : Option Entry → Except FileError (Option Entry)) :
    (fs.alter p e).edit (dir.join s) f =
      ((fs.edit (dir.join s) f).1, (fs.edit (dir.join s) f).2.alter p e) := by
  obtain ⟨hl, hq⟩ := locate_elsewhere (e := e) h hp hf
  unfold edit
  rw [hl]
  cases hs : fs.locate (dir.join s) with
  | error e => rfl
  | ok q =>
      have hne := hq q hs
      simp only [entry?_alter_of_ne hne]
      cases f <| fs.entry? q with
      | error e => rfl
      | ok e' => exact congrArg (Prod.mk _) (alter_comm (Ne.symm hne))

theorem overwrite_alter (bytes : ByteArray) :
    (fs.alter p e).overwrite (dir.join s) bytes =
      ((fs.overwrite (dir.join s) bytes).1, (fs.overwrite (dir.join s) bytes).2.alter p e) := by
  have hw := fs.workingDirectory_edit (dir.join s) (filled (fs.refuses .createFile) .empty)
  unfold overwrite
  simp only [createFile_eq_edit, refuses_alter, edit_alter h hp hf]
  rcases hc : fs.edit (dir.join s) (filled (fs.refuses .createFile) .empty) with ⟨e' | u, emptied⟩
  · rfl
  · rw [hc] at hw
    rw [← hw] at hp hf
    simp only [writeFile_eq_edit, refuses_alter, edit_alter h hp hf]

end

/-- Whatever is done to a file, nothing else changes. -/
theorem exists_edit {s : String} (h : Path.IsName s) (fs : FileSystem) (dir : Path)
    (f : Option Entry → Except FileError (Option Entry)) :
    ∃ e, (fs.edit (dir.join s) f).2 = fs.alter ((dir.place fs.workingDirectory).entry s) e := by
  unfold edit
  cases hs : fs.locate (dir.join s) with
  | error e => exact ⟨_, (alter_eq_self rfl).symm⟩
  | ok q =>
      have hq := locate_join_eq_ok h hs
      subst hq
      dsimp only
      cases f <| fs.entry? ((dir.place fs.workingDirectory).entry s) with
      | error e => exact ⟨_, (alter_eq_self rfl).symm⟩
      | ok e => exact ⟨e, rfl⟩

theorem exists_overwrite {s : String} (h : Path.IsName s) (fs : FileSystem) (dir : Path)
    (bytes : ByteArray) :
    ∃ e, (fs.overwrite (dir.join s) bytes).2 =
      fs.alter ((dir.place fs.workingDirectory).entry s) e := by
  obtain ⟨e, he⟩ := exists_edit h fs dir (filled (fs.refuses .createFile) .empty)
  unfold overwrite
  rw [createFile_eq_edit]
  rcases hc : fs.edit (dir.join s) (filled (fs.refuses .createFile) .empty) with ⟨e' | u, emptied⟩
  · rw [hc] at he
    exact ⟨e, he⟩
  · rw [hc] at he
    obtain rfl : emptied = _ := he
    obtain ⟨e', he'⟩ := exists_edit h (fs.alter ((dir.place fs.workingDirectory).entry s) e) dir
      (filled (fs.refuses .writeFile) bytes)
    refine ⟨e', ?_⟩
    dsimp only
    rw [writeFile_eq_edit, refuses_alter, he']
    exact alter_alter

end FileSystem
end Dashboard
