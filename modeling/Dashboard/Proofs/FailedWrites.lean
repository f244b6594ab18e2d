import Dashboard.Proofs.FileRefinement
import Dashboard.Proofs.ProgramRuns

/-!
# What a failed write leaves

A text is written in three steps: its directory is created, its file is created or emptied, and the
file is filled. Each of them may fail. Up to the second step nothing has happened to what was kept.
If there was a text, its directory was there as well, and nothing has happened at all.

The last step comes too late to fail. The file is empty by then, so the text that was kept is gone,
and an empty text stands in its place. The next session takes this for a dashboard of which nothing
has been kept.
-/
namespace Dashboard

namespace FileSystem
open Location

variable {fs : FileSystem}

/-! ## Directories that are there -/

theorem directories_of_foldlM_step {place q : Location} {cs : List Component}
    (h : cs.foldlM fs.step place = .ok q) (hq : fs.IsDirectory q) :
    ∀ p ∈ place.way cs, fs.IsDirectory p := by
  induction cs generalizing place with
  | nil =>
      cases h
      intro p hp
      rw [List.mem_singleton.mp hp]
      exact hq
  | cons c cs ih =>
      obtain ⟨r, hs, h⟩ := bind_eq_ok_iff.mp h
      obtain ⟨hp, hr⟩ := step_eq_ok hs
      rw [hr] at h
      intro p hmem
      rcases List.mem_cons.mp hmem with rfl | hmem
      · exact hp
      · exact ih h p hmem

/-- Where a file can be looked up, the whole way to it consists of directories. -/
theorem directories_of_locate {dir : Path} {s : String} {q : Location} (h : Path.IsName s)
    (hl : fs.locate (dir.join s) = .ok q) :
    ∀ p ∈ dir.way fs.workingDirectory, fs.IsDirectory p := by
  rw [locate_join h] at hl
  obtain ⟨start, ho, hl⟩ := bind_eq_ok_iff.mp hl
  obtain ⟨home, hf, hs⟩ := bind_eq_ok_iff.mp hl
  obtain ⟨-, -, -, hp⟩ := origin_eq_ok_iff.mp ho
  rw [← hp, start_join h] at hf
  exact directories_of_foldlM_step hf (step_eq_ok hs).1

theorem createAlong_unchanged {place : Location} {cs : List Component}
    (h : ∀ q ∈ place.way cs, fs.IsDirectory q) : (fs.createAlong place cs).2 = fs := by
  induction cs generalizing place with
  | nil => rfl
  | cons c cs ih =>
      unfold createAlong
      cases hs : fs.step place c with
      | error e => rfl
      | ok q =>
          have hw : ∀ p ∈ q.way cs, fs.IsDirectory p := by
            rw [(step_eq_ok hs).2]
            exact fun p hp => h p (List.mem_cons_of_mem _ hp)
          have hq : fs.entry? q = some .directory := hw q (mem_way_self q cs)
          simp only [hq]
          exact ih hw

/-- Creating a directory that is there changes nothing, whatever comes of it. -/
theorem createDirectory_unchanged {dir : Path}
    (h : ∀ q ∈ dir.way fs.workingDirectory, fs.IsDirectory q) :
    (fs.createDirectory dir).2 = fs := by
  unfold createDirectory
  split
  · rfl
  · cases ho : fs.origin dir with
    | error e => rfl
    | ok place =>
        obtain ⟨-, -, -, rfl⟩ := origin_eq_ok_iff.mp ho
        exact createAlong_unchanged h

/-! ## The steps on a file -/

section
variable {path : Path} {f : Option Entry → Except FileError (Option Entry)}

/-- A step on a file that fails changes nothing. -/
theorem edit_of_error {e : FileError} (h : (fs.edit path f).1 = .error e) :
    (fs.edit path f).2 = fs := by
  unfold edit at h ⊢
  cases hl : fs.locate path with
  | error e' => rfl
  | ok place =>
      simp only [hl] at h ⊢
      cases hf : f <| fs.entry? place with
      | error e' => rfl
      | ok entry =>
          rw [hf] at h
          cases h

theorem edit_of_ok (h : (fs.edit path f).1 = .ok ()) :
    ∃ place entry, fs.locate path = .ok place ∧ (f <| fs.entry? place) = .ok entry ∧
      (fs.edit path f).2 = fs.alter place entry := by
  unfold edit at h ⊢
  cases hl : fs.locate path with
  | error e =>
      rw [hl] at h
      cases h
  | ok place =>
      simp only [hl] at h ⊢
      cases hf : f <| fs.entry? place with
      | error e =>
          rw [hf] at h
          cases h
      | ok entry => exact ⟨place, entry, rfl, hf, rfl⟩

end

theorem filled_eq_ok {refused : Bool} {bytes : ByteArray} {found e : Option Entry}
    (h : filled refused bytes found = .ok e) :
    refused = false ∧ found ≠ some .directory ∧ e = some (.file bytes) := by
  unfold filled at h
  split at h
  · cases h
  · cases refused with
    | true => cases h
    | false =>
        cases h
        simp
  · cases refused with
    | true => cases h
    | false =>
        cases h
        simp

theorem createFile_of_error {path : Path} {e : FileError}
    (h : (fs.createFile path).1 = .error e) : (fs.createFile path).2 = fs := by
  rw [createFile_eq_edit] at h ⊢
  exact edit_of_error h

theorem writeFile_of_error {path : Path} {bytes : ByteArray} {e : FileError}
    (h : (fs.writeFile path bytes).1 = .error e) : (fs.writeFile path bytes).2 = fs := by
  rw [writeFile_eq_edit] at h ⊢
  exact edit_of_error h

/-- A file is created or emptied where there is no directory. -/
theorem createFile_of_ok {dir : Path} {s : String} (hs : Path.IsName s)
    (h : (fs.createFile (dir.join s)).1 = .ok ()) :
    let place := (dir.place fs.workingDirectory).entry s
    fs.locate (dir.join s) = .ok place ∧ fs.entry? place ≠ some .directory ∧
      (fs.createFile (dir.join s)).2 = fs.alter place (some (.file .empty)) := by
  intro place
  rw [createFile_eq_edit] at h ⊢
  obtain ⟨q, entry, hl, hf, hc⟩ := edit_of_ok h
  obtain ⟨-, hd, rfl⟩ := filled_eq_ok hf
  obtain rfl : q = place := locate_join_eq_ok hs hl
  exact ⟨hl, hd, hc⟩

/-! ## Reading -/

theorem readBytes_of_locate {path : Path} {place : Location} (hl : fs.locate path = .ok place) :
    fs.readBytes path =
      if fs.refuses .read then .error .refused
      else
        match fs.entry? place with
        | none => .error .missing
        | some .directory => .error .refused
        | some (.file bytes) => .ok bytes := by
  unfold readBytes
  rw [hl, ok_bind]
  cases fs.refuses .read <;> rfl

theorem exists_file_of_readText {path : Path} {text : String} (h : fs.readText path = .ok text) :
    ∃ place bytes, fs.locate path = .ok place ∧ fs.entry? place = some (.file bytes) := by
  unfold readText at h
  obtain ⟨bytes, hb, -⟩ := bind_eq_ok_iff.mp h
  cases hl : fs.locate path with
  | error e =>
      unfold readBytes at hb
      rw [hl] at hb
      cases hb
  | ok place =>
      rw [readBytes_of_locate hl] at hb
      split at hb
      · cases hb
      · cases he : fs.entry? place with
        | none => simp [he] at hb
        | some found =>
            cases found with
            | directory => simp [he] at hb
            | file bytes => exact ⟨place, bytes, rfl, he⟩

end FileSystem

/-! ## The step that fails -/

/-- The steps in which a text is written. -/
inductive WritingStep where
  /-- The directory is created unless it is there. -/
  | creating
  /-- The file is created, or what is in it is dropped. -/
  | emptying
  /-- The text is put into the file. -/
  | filling
deriving DecidableEq, Repr

namespace FileStore
open FileSystem

/-- The files once the directory has been created, as far as it could be. -/
def created (s : FileStore) : FileSystem := (s.files.createDirectory s.dir).2

/-- The files once the file of a key has been emptied as well. -/
def emptied (s : FileStore) (key : String) : FileSystem :=
  (s.created.createFile (s.dir.join (key ++ ".json"))).2

/-- The step at which writing a text fails, if it fails. -/
def failedStep? (s : FileStore) (key value : String) : Option WritingStep :=
  match (s.files.createDirectory s.dir).1,
    (s.created.createFile (s.dir.join (key ++ ".json"))).1,
    ((s.emptied key).writeFile (s.dir.join (key ++ ".json")) value.toUTF8).1 with
  | .error _, _, _ => some .creating
  | .ok (), .error _, _ => some .emptying
  | .ok (), .ok (), .error _ => some .filling
  | .ok (), .ok (), .ok () => none

section
variable (s : FileStore) {key : String} (hk : IsPlain key) (value : String)
include hk

/-- How far the steps come, and what they leave. -/
theorem set_cases :
    (s.failedStep? key value = none ∧ (set key value s).1 = .ok ()) ∨
    ((s.failedStep? key value = some .creating ∨ s.failedStep? key value = some .emptying) ∧
      (set key value s).1 ≠ .ok () ∧ (set key value s).2 = { s with files := s.created }) ∨
    (s.failedStep? key value = some .filling ∧ (set key value s).1 ≠ .ok () ∧
      (s.created.createFile (s.dir.join (key ++ ".json"))).1 = .ok () ∧
      (set key value s).2 = { s with files := s.emptied key }) := by
  rw [s.set_eq hk value]
  unfold overwrite failedStep? emptied created
  rcases s.files.createDirectory s.dir with ⟨e | u, made⟩
  · exact .inr (.inl ⟨.inl rfl, by simp, rfl⟩)
  · dsimp only
    rcases hc : made.createFile (s.dir.join (key ++ ".json")) with ⟨e | u, files⟩
    · obtain rfl : files = made := by
        have h := createFile_of_error (congrArg Prod.fst hc)
        rwa [hc] at h
      exact .inr (.inl ⟨.inr rfl, by simp, rfl⟩)
    · dsimp only
      rcases hw : files.writeFile (s.dir.join (key ++ ".json")) value.toUTF8 with ⟨e | u, written⟩
      · obtain rfl : written = files := by
          have h := writeFile_of_error (congrArg Prod.fst hw)
          rwa [hw] at h
        exact .inr (.inr ⟨rfl, by simp, rfl, rfl⟩)
      · exact .inl ⟨rfl, rfl⟩

/-- A text that is found lies in a directory that is there. -/
theorem directories_of_get {text : String} (h : get key s = .ok (some text)) :
    ∀ p ∈ s.way, s.files.IsDirectory p := by
  obtain ⟨place, bytes, hl, -⟩ := exists_file_of_readText (readText_of_get hk h)
  exact directories_of_locate hk.isName hl

/-- No text is found where there is no file. -/
theorem get_ne_text (h : ∀ bytes, s.files.entry? (s.fileOf key) ≠ some (.file bytes))
    (text : String) : get key s ≠ .ok (some text) := by
  intro hg
  obtain ⟨place, bytes, hl, he⟩ := exists_file_of_readText (readText_of_get hk hg)
  obtain rfl : place = s.fileOf key := locate_join_eq_ok hk.isName hl
  exact h bytes he

omit hk in
theorem refuses_created : s.created.refuses = s.files.refuses := by
  obtain ⟨entries, hc, -⟩ := s.files.grownAlong_createDirectory s.dir
  rw [created, hc]

/-- A file that can be emptied is not on the way to itself, where there are only directories. -/
theorem emptied_eq (h : (s.created.createFile (s.dir.join (key ++ ".json"))).1 = .ok ()) :
    (s.emptied key).locate (s.dir.join (key ++ ".json")) = .ok (s.fileOf key) ∧
      s.emptied key = s.created.alter (s.fileOf key) (some (.file .empty)) := by
  have hw := (s.files.grownAlong_createDirectory s.dir).workingDirectory
  obtain ⟨hl, hd, he⟩ := createFile_of_ok hk.isName h
  have hn : (s.dir.place s.created.workingDirectory).entry (key ++ ".json") ∉
      s.dir.way s.created.workingDirectory :=
    fun hm => hd (directories_of_locate hk.isName hl _ hm)
  unfold emptied fileOf home
  rw [he, locate_join_alter hn hk.isName, hl, ← hw]
  exact ⟨rfl, rfl⟩

/-- A file that has been emptied is read as the empty text. -/
theorem get_emptied (h : (s.created.createFile (s.dir.join (key ++ ".json"))).1 = .ok ()) :
    get key { s with files := s.emptied key } =
      if s.files.refuses .read then .error (.inaccessible (s.dir.join (key ++ ".json")))
      else .ok (some "") := by
  obtain ⟨hl, he⟩ := s.emptied_eq hk h
  have hf : entry? (s.emptied key) (s.fileOf key) = some (.file .empty) := by
    rw [entry?_of_ne_root (s.fileOf_ne_root key), he, entries_alter_self]
  have hr : (s.emptied key).refuses = s.files.refuses := by
    rw [he, refuses_alter, s.refuses_created]
  have hempty : String.fromUTF8? ByteArray.empty = some "" := fromUTF8?_toUTF8 ""
  rw [get_eq _ hk]
  unfold readText
  rw [readBytes_of_locate hl, hf, hr]
  cases s.files.refuses .read with
  | true => rfl
  | false => simp only [Bool.false_eq_true, if_false, ok_bind, hempty]

/-- Where there was no file, creating the directory makes none. -/
theorem get_created_ne_text (h : s.files.entry? (s.fileOf key) = none) (text : String) :
    get key { s with files := s.created } ≠ .ok (some text) := by
  have hg : GrownAlong s.way s.files s.created := s.files.grownAlong_createDirectory s.dir
  apply get_ne_text _ hk
  intro bytes hb
  unfold fileOf home at h hb
  dsimp only at hb
  rw [hg.workingDirectory] at hb
  rcases hg.entry?_cases ((s.dir.place s.files.workingDirectory).entry (key ++ ".json")) with
    hs | ⟨-, -, hd⟩
  · rw [hb, h] at hs
    cases hs
  · cases hb.symm.trans hd

end

/-- Writing a text under a plain key succeeds, or fails at one of its steps. If it fails before the
file is to be filled, nothing has changed where a text had been kept or the directory was there, and
where there was no file no text is found. If it fails when the file is to be filled, the empty text
is found from then on, whatever had been kept. -/
theorem text_after_failed_set (s : FileStore) {key : String} (hk : IsPlain key) (value : String) :
    let answer := (set key value s).1
    let ended := (set key value s).2
    match s.failedStep? key value with
    | none => answer = .ok ()
    | some .creating | some .emptying =>
        answer ≠ .ok () ∧
          (∀ text, get key s = .ok (some text) → ended = s) ∧
          ((∀ p ∈ s.way, s.files.IsDirectory p) → ended = s) ∧
          (s.files.entry? (s.fileOf key) = none → ∀ text, get key ended ≠ .ok (some text))
    | some .filling =>
        answer ≠ .ok () ∧
          get key ended =
            if s.files.refuses .read then .error (.inaccessible (s.dir.join (key ++ ".json")))
            else .ok (some "") := by
  intro answer ended
  rcases s.set_cases hk value with ⟨hs, ha⟩ | ⟨hs, ha, he⟩ | ⟨hs, ha, hc, he⟩
  · rw [hs]
    exact ha
  · have hsame (hd : ∀ p ∈ s.way, s.files.IsDirectory p) : ended = s := by
      have hcreated : s.created = s.files := createDirectory_unchanged hd
      rw [hcreated] at he
      exact he
    have hall : answer ≠ .ok () ∧ (∀ text, get key s = .ok (some text) → ended = s) ∧
        ((∀ p ∈ s.way, s.files.IsDirectory p) → ended = s) ∧
        (s.files.entry? (s.fileOf key) = none → ∀ text, get key ended ≠ .ok (some text)) := by
      refine ⟨ha, fun text ht => hsame (s.directories_of_get hk ht), hsame, ?_⟩
      intro hn text
      have hg := s.get_created_ne_text hk hn text
      rw [← he] at hg
      exact hg
    rcases hs with hs | hs <;> rw [hs] <;> exact hall
  · rw [hs]
    have hg := s.get_emptied hk hc
    rw [← he] at hg
    exact ⟨ha, hg⟩

/-- A layout that is kept in the directory, on a device that takes no more text. -/
def fullDevice : FileStore where
  dir := ⟨"state"⟩
  files :=
    { entries := fun place =>
        if place.names = ["state"] then some .directory
        else if place.names = ["mosaic_layout.json", "state"] then
          some (.file "\"map#1\"".toUTF8)
        else none
      refuses := fun action => action = .writeFile }

/-- The layout that was to be written is not kept, and the one before is not either. -/
theorem text_after_failed_set_full :
    IsPlain snapshotKey ∧ (set snapshotKey "\"map#2\"" fullDevice).1 ≠ .ok () ∧
      get snapshotKey (set snapshotKey "\"map#2\"" fullDevice).2 = .ok (some "") := by
  have hs : fullDevice.failedStep? snapshotKey "\"map#2\"" = some .filling := by decide +kernel
  have h := text_after_failed_set fullDevice isPlain_snapshotKey "\"map#2\""
  rw [hs] at h
  exact ⟨isPlain_snapshotKey, h⟩

/-! ## The next session -/

/-- After a write that has failed when the file was to be filled, a session starts as if nothing had
been kept, without a word about what is lost. -/
theorem origin_of_failed_filling {σ : Type} [TokenSource σ] {s : FileStore} {value : String}
    (h : s.failedStep? snapshotKey value = some .filling) (tokens : σ)
    (settings : LayoutSettings) :
    (Store.bootstrap (set snapshotKey value s).2 tokens settings).origin = .defaulted := by
  rw [Store.bootstrap_origin, Opening.origin_eq_defaulted_iff]
  rcases s.set_cases isPlain_snapshotKey value with ⟨hs, -⟩ | ⟨hs, -⟩ | ⟨-, -, hc, he⟩
  · cases hs.symm.trans h
  · rcases hs with hs | hs <;> cases hs.symm.trans h
  · have hg := s.get_emptied isPlain_snapshotKey hc
    have hread : (KeyValueStore.get snapshotKey (set snapshotKey value s).2).1 =
        if s.files.refuses .read then .error (.inaccessible (s.dir.join (snapshotKey ++ ".json")))
        else .ok (some "") := by
      rw [he]
      exact hg
    have hempty : Store.significant? "" = none := by decide
    unfold Store.textRead
    rw [hread]
    cases s.files.refuses .read with
    | true => rfl
    | false => exact hempty

/-- A directory that is not there yet. The way to it leads through the place of the file that the
key `layout` would have. -/
def roundabout : FileStore := ⟨⟨"layout.json/.."⟩, {}⟩

/-- What is found under a key after a write that has failed need not be what was found before. On a
device that takes no more text the layout that was kept is gone. In a directory that has not been
there no text is found; the write that fails creates it, and from then on the file of the key cannot
be accessed. -/
theorem answer_changed_by_failed_set :
    (get snapshotKey fullDevice = .ok (some "\"map#1\"") ∧
      (set snapshotKey "\"map#2\"" fullDevice).1 ≠ .ok () ∧
      get snapshotKey (set snapshotKey "\"map#2\"" fullDevice).2 = .ok (some "") ∧
      (Store.bootstrap (set snapshotKey "\"map#2\"" fullDevice).2 ({} : ScriptedTokens) {}).origin =
        .defaulted) ∧
    (IsPlain "layout" ∧ get "layout" roundabout = .ok none ∧
      (set "layout" "null" roundabout).1 ≠ .ok () ∧
      (get "layout" (set "layout" "null" roundabout).2).isOk = false) := by
  have hne {x : Except PersistError Unit} (h : x.isOk = false) : x ≠ .ok () := by
    rintro rfl
    cases h
  have hf : fullDevice.failedStep? snapshotKey "\"map#2\"" = some .filling := by decide +kernel
  constructor
  · refine ⟨CommandLine.ok_of_toOption (by decide +kernel), hne (by decide +kernel),
      CommandLine.ok_of_toOption (by decide +kernel), ?_⟩
    exact origin_of_failed_filling hf ({} : ScriptedTokens) {}
  · refine ⟨(isValidKey_iff _).mp (by decide +kernel),
      CommandLine.ok_of_toOption (by decide +kernel), hne (by decide +kernel), ?_⟩
    decide +kernel

end FileStore
end Dashboard
