import Dashboard.Proofs.FilePlaces

/-!
# Creating a directory

A directory is created by putting directories where nothing is on the way to it. Nothing else
changes, and nothing that is there is replaced. Once this has succeeded, the whole way consists of
directories: creating the directory again changes nothing, and its files can be looked up. Before,
a file that cannot be looked up is missing, as nothing on the way is in the way.
-/
namespace Dashboard.FileSystem
open Location

/-! ## What is created -/

/-- Directories have been put where nothing was on the given way, and nothing else has been done. -/
def GrownAlong (way : List Location) (fs grown : FileSystem) : Prop :=
  ∃ entries, grown = { fs with entries } ∧
    ∀ p, entries p = fs.entries p ∨
      p ∈ way ∧ fs.entries p = none ∧ entries p = some .directory

theorem GrownAlong.refl (way : List Location) (fs : FileSystem) : GrownAlong way fs fs :=
  ⟨fs.entries, rfl, fun _ => .inl rfl⟩

section
variable {fs grown : FileSystem} {way : List Location}

theorem GrownAlong.mono {wider : List Location} (h : GrownAlong way fs grown)
    (hw : ∀ p ∈ way, p ∈ wider) : GrownAlong wider fs grown := by
  obtain ⟨entries, hg, he⟩ := h
  refine ⟨entries, hg, ?_⟩
  intro p
  rcases he p with hs | ⟨hp, hn, hd⟩
  · exact .inl hs
  · exact .inr ⟨hw p hp, hn, hd⟩

theorem GrownAlong.trans {further : FileSystem} (h : GrownAlong way fs grown)
    (h' : GrownAlong way grown further) : GrownAlong way fs further := by
  obtain ⟨entries, rfl, he⟩ := h
  obtain ⟨entries', rfl, he'⟩ := h'
  refine ⟨entries', rfl, ?_⟩
  intro p
  rcases he' p with hs' | ⟨hp, hn, hd⟩
  · rcases he p with hs | ⟨hp, hn, hd⟩
    · exact .inl (hs'.trans hs)
    · exact .inr ⟨hp, hn, hs'.trans hd⟩
  · rcases he p with hs | ⟨-, -, hd'⟩
    · exact .inr ⟨hp, hs.symm.trans hn, hd⟩
    · cases hn.symm.trans hd'

theorem grownAlong_put {p : Location} (h : fs.entry? p = none) :
    GrownAlong [p] fs (fs.put p .directory) := by
  refine ⟨_, rfl, ?_⟩
  intro q
  by_cases hq : q = p
  · subst hq
    exact .inr ⟨List.mem_singleton_self q, (entries_of_entry?_eq_none h).2, if_pos rfl⟩
  · exact .inl (if_neg hq)

theorem GrownAlong.entry?_cases (h : GrownAlong way fs grown) (p : Location) :
    grown.entry? p = fs.entry? p ∨
      p ∈ way ∧ fs.entry? p = none ∧ grown.IsDirectory p := by
  obtain ⟨entries, rfl, he⟩ := h
  by_cases hr : p = root
  · left
    unfold entry?
    rw [if_pos hr, if_pos hr]
  · unfold IsDirectory
    rw [entry?_of_ne_root hr, entry?_of_ne_root hr]
    exact he p

/-- What is a directory stays one. -/
theorem GrownAlong.directory (h : GrownAlong way fs grown) {p : Location}
    (hd : fs.IsDirectory p) : grown.IsDirectory p := by
  rcases h.entry?_cases p with hs | ⟨-, -, hg⟩
  · exact hs.trans hd
  · exact hg

theorem GrownAlong.entries_of_notMem (h : GrownAlong way fs grown) {p : Location} (hp : p ∉ way) :
    grown.entries p = fs.entries p := by
  obtain ⟨entries, rfl, he⟩ := h
  exact (he p).resolve_right fun hd => hp hd.1

theorem GrownAlong.workingDirectory (h : GrownAlong way fs grown) :
    grown.workingDirectory = fs.workingDirectory := by
  obtain ⟨entries, rfl, -⟩ := h
  rfl

end

/-- One step of the creation: it fails without a change, or the next place is a directory, perhaps a
new one, from which the creation goes on. -/
theorem createAlong_cons (fs : FileSystem) (place : Location) (c : Component)
    (cs : List Component) :
    (∃ e, fs.createAlong place (c :: cs) = (.error e, fs)) ∨
    fs.IsDirectory place ∧
      ∃ next, GrownAlong [place.follow c] fs next ∧
        fs.createAlong place (c :: cs) = next.createAlong (place.follow c) cs := by
  rw [createAlong]
  cases hs : fs.step place c with
  | error e => exact .inl ⟨e, rfl⟩
  | ok q =>
      obtain ⟨hp, rfl⟩ := step_eq_ok hs
      dsimp only
      split
      next => exact .inr ⟨hp, fs, .refl _ fs, rfl⟩
      next => exact .inl ⟨_, rfl⟩
      next hn =>
        split
        · exact .inl ⟨_, rfl⟩
        · split
          · exact .inl ⟨_, rfl⟩
          · exact .inr ⟨hp, _, grownAlong_put hn, rfl⟩

theorem grownAlong_createAlong (fs : FileSystem) (place : Location) (cs : List Component) :
    GrownAlong (place.way cs) fs (fs.createAlong place cs).2 := by
  induction cs generalizing fs place with
  | nil => exact .refl _ fs
  | cons c cs ih =>
      rcases fs.createAlong_cons place c cs with ⟨e, he⟩ | ⟨-, next, hg, he⟩
      · rw [he]
        exact .refl _ fs
      · rw [he]
        have hn : GrownAlong ((place.follow c).way cs) fs next := by
          apply hg.mono
          intro p hp
          rw [List.mem_singleton.mp hp]
          exact mem_way_self _ cs
        exact (hn.trans (ih next _)).mono fun p hp => List.mem_cons_of_mem _ hp

theorem grownAlong_createDirectory (fs : FileSystem) (dir : Path) :
    GrownAlong (dir.way fs.workingDirectory) fs (fs.createDirectory dir).2 := by
  unfold createDirectory
  split
  · exact .refl _ fs
  · cases h : fs.origin dir with
    | error e => exact .refl _ fs
    | ok place =>
        obtain ⟨-, -, -, rfl⟩ := origin_eq_ok_iff.mp h
        exact grownAlong_createAlong fs _ _

/-! ## The way to a directory that has been created -/

theorem directories_of_createAlong {fs : FileSystem} {place : Location} {cs : List Component}
    (hc : (fs.createAlong place cs).1 = .ok ())
    (hd : (fs.createAlong place cs).2.IsDirectory (cs.foldl follow place)) :
    ∀ q ∈ place.way cs, (fs.createAlong place cs).2.IsDirectory q := by
  induction cs generalizing fs place with
  | nil =>
      intro q hq
      rw [List.mem_singleton.mp hq]
      exact hd
  | cons c cs ih =>
      have hg := fs.grownAlong_createAlong place (c :: cs)
      intro q hq
      rcases fs.createAlong_cons place c cs with ⟨e, he⟩ | ⟨hp, next, -, he⟩
      · rw [he] at hc
        cases hc
      · rcases List.mem_cons.mp hq with rfl | hq
        -- a step is taken from a directory only
        · exact hg.directory hp
        · rw [he] at hc hd ⊢
          exact ih hc hd q hq

theorem notMem_of_createDirectory {fs : FileSystem} {dir : Path}
    (h : (fs.createDirectory dir).1 = .ok ()) : '\x00' ∉ dir.text.toList := by
  unfold createDirectory at h
  split at h
  next he =>
    rw [String.isEmpty_iff.mp he]
    exact List.not_mem_nil
  next =>
    cases ho : fs.origin dir with
    | error e =>
        rw [ho] at h
        cases h
    | ok place => exact (origin_eq_ok_iff.mp ho).2.2.1

/-- Once a directory has been created, there are directories all the way. -/
theorem directories_of_createDirectory {fs : FileSystem} {dir : Path}
    (hc : (fs.createDirectory dir).1 = .ok ())
    (hd : (fs.createDirectory dir).2.IsDirectory (dir.place fs.workingDirectory)) :
    ∀ q ∈ dir.way fs.workingDirectory, (fs.createDirectory dir).2.IsDirectory q := by
  unfold createDirectory at hc hd ⊢
  split at hc
  next he =>
    -- the empty path leads nowhere else than to where it starts
    rw [if_pos he] at hd ⊢
    have hn : dir.components = [] := by
      unfold Path.components
      rw [String.isEmpty_iff.mp he]
      rfl
    intro q hq
    unfold Path.way at hq
    unfold Path.place at hd
    rw [hn] at hq hd
    rw [List.mem_singleton.mp hq]
    exact hd
  next he =>
    rw [if_neg he] at hd ⊢
    cases ho : fs.origin dir with
    | error e =>
        rw [ho] at hc
        cases hc
    | ok place =>
        rw [ho] at hc hd
        obtain ⟨-, -, -, rfl⟩ := origin_eq_ok_iff.mp ho
        exact directories_of_createAlong hc hd

/-! ## Where no operation fails -/

/-- Neither the device nor the length of a name keeps anything from being done. -/
structure Unhindered (fs : FileSystem) : Prop where
  nameLimit : fs.nameLimit = none
  pathLimit : fs.pathLimit = none
  refuses : ∀ action, fs.refuses action = false

theorem Unhindered.grown {fs grown : FileSystem} {way : List Location} (h : fs.Unhindered)
    (hg : GrownAlong way fs grown) : grown.Unhindered := by
  obtain ⟨entries, rfl, -⟩ := hg
  exact ⟨h.nameLimit, h.pathLimit, h.refuses⟩

theorem Unhindered.alter {fs : FileSystem} (h : fs.Unhindered) (p : Location) (e : Option Entry) :
    (fs.alter p e).Unhindered :=
  ⟨h.nameLimit, h.pathLimit, h.refuses⟩

section
variable {fs : FileSystem} (hu : fs.Unhindered)
include hu

theorem step_of_directory {place : Location} (h : fs.IsDirectory place)
    (c : Component) : fs.step place c = .ok (place.follow c) := by
  have ha (s : String) : fs.allowsName s = true := by
    unfold allowsName
    rw [hu.nameLimit]
    rfl
  unfold step
  rw [enter_eq_ok_iff.mpr h, ok_bind]
  cases c with
  | here | parent => rfl
  | name s => exact if_pos (ha s)

theorem origin_of_notMem {path : Path} (he : path.text.isEmpty = false)
    (h0 : '\x00' ∉ path.text.toList) : fs.origin path = .ok (path.start fs.workingDirectory) := by
  have ha : fs.allowsPath path = true := by
    unfold allowsPath
    rw [hu.pathLimit]
    rfl
  exact origin_eq_ok_iff.mpr ⟨he, ha, h0, rfl⟩

omit hu in
theorem step_of_none {place : Location} (h : fs.entry? place = none) (c : Component) :
    fs.step place c = .error .missing := by
  unfold step enter
  rw [h]
  rfl

theorem foldlM_step_of_directories {place : Location} {cs : List Component}
    (h : ∀ q ∈ place.way cs, fs.IsDirectory q) :
    cs.foldlM fs.step place = .ok (cs.foldl follow place) := by
  induction cs generalizing place with
  | nil => rfl
  | cons c cs ih =>
      have hp := h place List.mem_cons_self
      rw [List.foldlM_cons, step_of_directory hu hp, ok_bind]
      exact ih fun q hq => h q (List.mem_cons_of_mem _ hq)

theorem createAlong_of_directories {place : Location} {cs : List Component}
    (h : ∀ q ∈ place.way cs, fs.IsDirectory q) :
    fs.createAlong place cs = (.ok (), fs) := by
  induction cs generalizing place with
  | nil => rfl
  | cons c cs ih =>
      have hp := h place List.mem_cons_self
      have hn : fs.entry? (place.follow c) = some .directory :=
        h _ (List.mem_cons_of_mem _ (mem_way_self _ cs))
      unfold createAlong
      simp only [step_of_directory hu hp, hn]
      exact ih fun q hq => h q (List.mem_cons_of_mem _ hq)

/-- A way on which there are directories or nothing can be followed unless something is missing. -/
theorem foldlM_step_cases {place : Location} {cs : List Component}
    (h : ∀ q ∈ place.way cs, fs.IsDirectory q ∨ fs.entry? q = none) :
    cs.foldlM fs.step place = .ok (cs.foldl follow place) ∨
      cs.foldlM fs.step place = .error .missing := by
  induction cs generalizing place with
  | nil => exact .inl rfl
  | cons c cs ih =>
      rw [List.foldlM_cons]
      rcases h place List.mem_cons_self with hp | hp
      · rw [step_of_directory hu hp, ok_bind]
        exact ih fun q hq => h q (List.mem_cons_of_mem _ hq)
      · rw [step_of_none hp]
        exact .inr rfl

section
variable {dir : Path} (h0 : '\x00' ∉ dir.text.toList)
include h0

theorem createDirectory_of_directories
    (h : ∀ q ∈ dir.way fs.workingDirectory, fs.IsDirectory q) :
    fs.createDirectory dir = (.ok (), fs) := by
  unfold createDirectory
  split
  · rfl
  next he =>
    rw [origin_of_notMem hu (Bool.not_eq_true _ |>.mp he) h0]
    exact createAlong_of_directories hu h

variable {s : String} (hs : Path.IsName s) (hs0 : '\x00' ∉ s.toList)
include hs hs0

theorem origin_join : fs.origin (dir.join s) = .ok (dir.start fs.workingDirectory) := by
  rw [← start_join hs]
  exact origin_of_notMem hu (hs.not_isEmpty_join dir) (hs.notMem_join (by decide) hs0 h0)

/-- Where the directory is there, its files can be looked up, whether or not they are there. -/
theorem locate_join_of_directories
    (h : ∀ q ∈ dir.way fs.workingDirectory, fs.IsDirectory q) :
    fs.locate (dir.join s) = .ok ((dir.place fs.workingDirectory).entry s) := by
  rw [locate_join hs, origin_join hu h0 hs hs0, ok_bind, foldlM_step_of_directories hu h, ok_bind]
  exact step_of_directory hu (h _ (dir.place_mem_way _)) _

/-- Where the directory can still be created, looking up a file can only fail because something is
missing. -/
theorem locate_join_cases
    (h : ∀ q ∈ dir.way fs.workingDirectory,
      fs.IsDirectory q ∨ fs.entry? q = none) :
    fs.locate (dir.join s) = .ok ((dir.place fs.workingDirectory).entry s) ∨
      fs.locate (dir.join s) = .error .missing := by
  rw [locate_join hs, origin_join hu h0 hs hs0, ok_bind]
  rcases foldlM_step_cases hu h with hf | hf
  · rw [hf, ok_bind]
    rcases h _ (dir.place_mem_way _) with hp | hp
    · exact .inl (step_of_directory hu hp _)
    · exact .inr (step_of_none hp _)
  · rw [hf]
    exact .inr rfl

end
end
end Dashboard.FileSystem
