import Dashboard.Proofs.FileConfinement

/-!
# Files answer like memory

Where no operation fails and the directory can be created, texts in files are kept and found again
exactly as texts in memory are, for the keys that are plain. The two are compared along a sequence
of calls. Until something is written the files are as they were at the start, and nothing has been
kept. From then on the directory is there, and the files in it are those of the texts in memory.
-/
namespace Dashboard

namespace FileStore
open FileSystem

theorem fromUTF8?_toUTF8 (text : String) : String.fromUTF8? text.toUTF8 = some text := by
  unfold String.fromUTF8?
  rw [String.toUTF8_eq_toByteArray, dif_pos text.isValidUTF8]
  rfl

/-! ## A directory that holds texts -/

/-- The directory is there, and its files are those of the given texts. -/
structure Holds (s : FileStore) (texts : String → Option String) : Prop where
  unhindered : s.files.Unhindered
  noNull : '\x00' ∉ s.dir.text.toList
  directories : ∀ p ∈ s.way, s.files.IsDirectory p
  entries : ∀ key, IsPlain key →
    s.files.entries (s.fileOf key) = (texts key).map fun text => .file text.toUTF8

namespace Holds
variable {s : FileStore} {texts : String → Option String} (h : Holds s texts) {key : String}
  (hk : IsPlain key)
include h hk

theorem found : s.files.entry? (s.fileOf key) = (texts key).map fun text => .file text.toUTF8 :=
  (entry?_of_ne_root (s.fileOf_ne_root key)).trans (h.entries key hk)

/-- The directory is not reached through one of its own files. -/
theorem fileOf_notMem_way : s.fileOf key ∉ s.way := by
  intro hm
  have hd := (h.found hk).symm.trans (h.directories _ hm)
  cases ht : texts key with
  | none =>
      rw [ht] at hd
      cases hd
  | some text =>
      rw [ht] at hd
      cases hd

theorem locate : s.files.locate (s.dir.join (key ++ ".json")) = .ok (s.fileOf key) :=
  locate_join_of_directories h.unhindered h.noNull hk.isName
    (hk.notMem_append (by decide) (by decide)) h.directories

theorem get : FileStore.get key s = .ok (texts key) := by
  rw [s.get_eq hk]
  unfold readText readBytes
  rw [h.locate hk, ok_bind]
  simp only [h.unhindered.refuses, h.found hk]
  cases texts key with
  | none => rfl
  | some text =>
      simp only [Option.map_some, Bool.false_eq_true, if_false, ok_bind, fromUTF8?_toUTF8]

theorem set (value : String) :
    FileStore.set key value s =
      (.ok (), s.alter (s.fileOf key) (some (.file value.toUTF8))) := by
  have hc := createDirectory_of_directories h.unhindered h.noNull h.directories
  have hl := h.locate hk
  have hl' (e : Option Entry) :
      (s.files.alter (s.fileOf key) e).locate (s.dir.join (key ++ ".json")) = .ok (s.fileOf key) :=
    (locate_join_alter (h.fileOf_notMem_way hk) hk.isName).trans hl
  have hf : s.files.createFile (s.dir.join (key ++ ".json")) =
      (.ok (), s.files.alter (s.fileOf key) (some (.file .empty))) := by
    unfold createFile
    rw [hl]
    simp only [h.unhindered.refuses, h.found hk]
    cases texts key <;> rfl
  have hw : (s.files.alter (s.fileOf key) (some (.file .empty))).writeFile
      (s.dir.join (key ++ ".json")) value.toUTF8 =
        (.ok (), s.files.alter (s.fileOf key) (some (.file value.toUTF8))) := by
    unfold writeFile
    rw [hl']
    simp only [refuses_alter, h.unhindered.refuses, entry?_of_ne_root (s.fileOf_ne_root key),
      entries_alter_self, put_eq_alter, alter_alter]
  rw [s.set_eq hk, hc]
  dsimp only
  unfold overwrite
  rw [hf]
  dsimp only
  rw [hw]
  rfl

theorem remove : FileStore.remove key s = (.ok (), s.alter (s.fileOf key) none) := by
  rw [s.remove_eq hk]
  unfold removeFile
  rw [h.locate hk]
  simp only [h.unhindered.refuses, h.found hk]
  cases ht : texts key with
  | none =>
      have he : s.files.entries (s.fileOf key) = none := by
        rw [h.entries key hk, ht]
        rfl
      unfold alter
      rw [alter_eq_self he]
      rfl
  | some text => rfl

/-- The files after the file of one key has been replaced, or removed. -/
theorem alter {after : String → Option String}
    (hother : ∀ other, other ≠ key → after other = texts other) :
    Holds (s.alter (s.fileOf key) ((after key).map fun text => .file text.toUTF8)) after where
  unhindered := h.unhindered.alter _ _
  noNull := h.noNull
  directories := by
    intro p hp
    have hne : p ≠ s.fileOf key := by
      rintro rfl
      exact h.fileOf_notMem_way hk hp
    exact (entry?_alter_of_ne hne).trans (h.directories p hp)
  entries := by
    intro other ho
    by_cases he : other = key
    · subst he
      exact entries_alter_self
    · have hne : s.fileOf other ≠ s.fileOf key := fun hf => he (fileOf_inj hf)
      rw [hother other he]
      exact (entries_alter_of_ne hne).trans (h.entries other ho)

end Holds

/-! ## Before anything is written -/

/-- No operation will fail, and the directory can be created and has no files of keys. -/
structure Prepared (s : FileStore) : Prop where
  unhindered : s.files.Unhindered
  creatable : (s.files.createDirectory s.dir).1 = .ok ()
  directory : (s.files.createDirectory s.dir).2.IsDirectory s.home
  vacant : ∀ key, IsPlain key → s.files.entries (s.fileOf key) = none
  /-- The path of the directory does not go down to the place of a file and up again. To create the
  directory would put a directory there, and to write the file would then fail. -/
  apart : ∀ key, IsPlain key → s.fileOf key ∉ s.way

namespace Prepared
variable {s : FileStore} (h : Prepared s)
include h

/-- Once the directory has been created it holds no texts. -/
theorem holds : Holds { s with files := (s.files.createDirectory s.dir).2 } fun _ => none := by
  have hg := s.files.grownAlong_createDirectory s.dir
  have hw := hg.workingDirectory
  refine ⟨h.unhindered.grown hg, notMem_of_createDirectory h.creatable, ?_, ?_⟩
  · unfold way
    rw [hw]
    exact directories_of_createDirectory h.creatable h.directory
  · intro key hk
    unfold fileOf home
    rw [hw]
    exact (hg.entries_of_notMem (h.apart key hk)).trans (h.vacant key hk)

theorem locate_cases {key : String} (hk : IsPlain key) :
    s.files.locate (s.dir.join (key ++ ".json")) = .ok (s.fileOf key) ∨
      s.files.locate (s.dir.join (key ++ ".json")) = .error .missing := by
  have hg := s.files.grownAlong_createDirectory s.dir
  have hd := directories_of_createDirectory h.creatable h.directory
  apply locate_join_cases h.unhindered (notMem_of_createDirectory h.creatable) hk.isName
    (hk.notMem_append (by decide) (by decide))
  intro q hq
  rcases hg.entry?_cases q with hs | ⟨-, hn, -⟩
  · exact .inl (hs.symm.trans (hd q hq))
  · exact .inr hn

theorem get {key : String} (hk : IsPlain key) : FileStore.get key s = .ok none := by
  have he := (entry?_of_ne_root (s.fileOf_ne_root key)).trans (h.vacant key hk)
  rw [s.get_eq hk]
  unfold readText readBytes
  rcases h.locate_cases hk with hl | hl
  · rw [hl, ok_bind]
    simp only [h.unhindered.refuses, he]
    rfl
  · rw [hl]
    rfl

theorem remove {key : String} (hk : IsPlain key) : FileStore.remove key s = (.ok (), s) := by
  have he := (entry?_of_ne_root (s.fileOf_ne_root key)).trans (h.vacant key hk)
  rw [s.remove_eq hk]
  unfold removeFile
  rcases h.locate_cases hk with hl | hl
  · rw [hl]
    simp only [h.unhindered.refuses, he]
  · rw [hl]

/-- What is written first is written into the directory that is created for it. -/
theorem set {key : String} (hk : IsPlain key) (value : String) :
    FileStore.set key value s =
      FileStore.set key value { s with files := (s.files.createDirectory s.dir).2 } := by
  have hh := h.holds
  have hc := createDirectory_of_directories hh.unhindered hh.noNull hh.directories
  have hs : s.files.createDirectory s.dir = (.ok (), (s.files.createDirectory s.dir).2) :=
    Prod.ext h.creatable rfl
  rw [s.set_eq hk, set_eq _ hk, hc, hs]

end Prepared

/-- A path on which no step goes up leads through places that are not inside of where it ends. -/
theorem length_names_le_of_mem_way {place p : Location} {cs : List Component}
    (hn : Component.parent ∉ cs) (hp : p ∈ place.way cs) :
    p.names.length ≤ (cs.foldl Location.follow place).names.length := by
  induction cs generalizing place p with
  | nil =>
      rw [List.mem_singleton.mp hp]
      exact Nat.le_refl _
  | cons c cs ih =>
      rw [List.mem_cons, not_or] at hn
      have hc : place.names.length ≤ (place.follow c).names.length := by
        cases c with
        | here => exact Nat.le_refl _
        | parent => exact (hn.1 rfl).elim
        | name s => exact Nat.le_succ _
      rw [List.foldl_cons]
      rcases List.mem_cons.mp hp with hp | hp
      · rw [hp]
        exact Nat.le_trans hc (ih hn.2 (Location.mem_way_self _ cs))
      · exact ih hn.2 hp

theorem fileOf_notMem_way {s : FileStore} (hn : Component.parent ∉ s.dir.components)
    (key : String) : s.fileOf key ∉ s.way := by
  intro hm
  have hl : (s.fileOf key).names.length ≤ s.home.names.length := length_names_le_of_mem_way hn hm
  exact absurd hl (Nat.not_succ_le_self _)

/-! ## Along a sequence of calls -/

/-- What the files have come to, from their start on and beside texts in memory. -/
inductive Tracks (start : FileStore) : FileStore → MemoryStore → Prop
  /-- Nothing has been written yet. -/
  | unwritten {m : MemoryStore} :
      (∀ key, IsPlain key → m.entries key = none) → Tracks start start m
  | written {s : FileStore} {m : MemoryStore} : Holds s m.entries → Tracks start s m

/-- A call changes the text of its own key only. -/
theorem entries_run_memory (c : Call) (m : MemoryStore) {key : String} (h : key ≠ c.key) :
    (c.run m).2.entries key = m.entries key := by
  cases c with
  | get other => rfl
  | set other value => exact if_neg h
  | remove other => exact if_neg h

theorem Holds.congr {s : FileStore} {texts other : String → Option String} (h : Holds s texts)
    (he : ∀ key, IsPlain key → other key = texts key) : Holds s other where
  unhindered := h.unhindered
  noNull := h.noNull
  directories := h.directories
  entries := by
    intro key hk
    rw [he key hk]
    exact h.entries key hk

/-- A call on files that hold the texts in memory is answered in the same way, and they hold them
again. -/
theorem Holds.run {s : FileStore} {m : MemoryStore} (h : Holds s m.entries) (c : Call)
    (hk : IsPlain c.key) :
    (c.run s).1 = (c.run m).1 ∧ Holds (c.run s).2 (c.run m).2.entries := by
  have hother : ∀ other, other ≠ c.key → (c.run m).2.entries other = m.entries other :=
    fun other ho => entries_run_memory c m ho
  cases c with
  | get key => exact ⟨h.get hk, h⟩
  | set key value =>
      have hs : FileStore.set key value s = _ := h.set hk value
      have hv : (Call.run (.set key value) m).2.entries key = some value := if_pos rfl
      have ha := h.alter hk hother
      simp only [Call.key, hv] at ha
      simp only [Call.run, KeyValueStore.set, hs] at ha ⊢
      exact ⟨trivial, ha⟩
  | remove key =>
      have hs : FileStore.remove key s = _ := h.remove hk
      have hv : (Call.run (.remove key) m).2.entries key = none := if_pos rfl
      have ha := h.alter hk hother
      simp only [Call.key, hv] at ha
      simp only [Call.run, KeyValueStore.remove, hs] at ha ⊢
      exact ⟨trivial, ha⟩

section
variable {start : FileStore} (hp : Prepared start)
include hp

/-- The first writing starts from the directory that it creates; every other call finds nothing. -/
theorem Prepared.run {m : MemoryStore} (hn : ∀ key, IsPlain key → m.entries key = none) (c : Call)
    (hk : IsPlain c.key) :
    (c.run start).1 = (c.run m).1 ∧ Tracks start (c.run start).2 (c.run m).2 := by
  cases c with
  | get key =>
      have hg : FileStore.get key start = .ok none := hp.get hk
      have hm : m.entries key = none := hn key hk
      simp only [Call.run, KeyValueStore.get, hg, hm]
      exact ⟨trivial, .unwritten hn⟩
  | set key value =>
      have hs : FileStore.set key value start = _ := hp.set hk value
      have hm : Holds { start with files := (start.files.createDirectory start.dir).2 } m.entries :=
        hp.holds.congr hn
      obtain ⟨ha, hh⟩ := hm.run (.set key value) hk
      simp only [Call.run, KeyValueStore.set, hs] at ha hh ⊢
      exact ⟨ha, .written hh⟩
  | remove key =>
      have hr : FileStore.remove key start = _ := hp.remove hk
      simp only [Call.run, KeyValueStore.remove, hr]
      refine ⟨trivial, .unwritten ?_⟩
      intro other ho
      by_cases he : other = key
      · exact if_pos he
      · exact (if_neg he).trans (hn other ho)

/-- One call keeps the two together. -/
theorem Tracks.run {s : FileStore} {m : MemoryStore} (h : Tracks start s m) (c : Call) :
    (IsPlain c.key → (c.run s).1 = (c.run m).1) ∧ Tracks start (c.run s).2 (c.run m).2 := by
  by_cases hk : IsPlain c.key
  · cases h with
    | unwritten hn =>
        obtain ⟨ha, ht⟩ := hp.run hn c hk
        exact ⟨fun _ => ha, ht⟩
    | written hh =>
        obtain ⟨ha, hh⟩ := hh.run c hk
        exact ⟨fun _ => ha, .written hh⟩
  · -- memory keeps a text under every key, but none of them is asked for here
    have hm : ∀ key, IsPlain key → (c.run m).2.entries key = m.entries key := by
      intro key ho
      apply entries_run_memory
      rintro rfl
      exact hk ho
    rw [s.run_of_not_isPlain c hk]
    refine ⟨fun hc => (hk hc).elim, ?_⟩
    cases h with
    | unwritten hn =>
        apply Tracks.unwritten
        intro key ho
        rw [hm key ho, hn key ho]
    | written hh => exact .written (hh.congr hm)

/-- A sequence of calls keeps the two together. -/
theorem Tracks.runAll {s : FileStore} {m : MemoryStore} (h : Tracks start s m) (cs : List Call) :
    Tracks start (Call.runAll cs s) (Call.runAll cs m) := by
  induction cs generalizing s m with
  | nil => exact h
  | cons c cs ih => exact ih (h.run hp c).2

end

/-- Texts in files against texts in memory, after any sequence of calls with any keys and for any
further call. To a plain key both answer alike, and what is done concerns the file of that key and
the way to the directory only. Any other key is refused, and nothing happens. -/
theorem files_refine_memory {start : FileStore} (h : Prepared start) (cs : List Call) (c : Call) :
    let files := Call.runAll cs start
    let memory := Call.runAll cs ({} : MemoryStore)
    (IsPlain c.key → (c.run files).1 = (c.run memory).1) ∧
    (¬ IsPlain c.key → ∀ s : FileStore, c.run s = (.error (.invalidKey c.key), s)) ∧
    (IsPlain c.key → ∀ p, p ≠ start.fileOf c.key →
      (p ∉ start.way → ∀ e,
        c.run (files.alter p e) = ((c.run files).1, (c.run files).2.alter p e)) ∧
      ((c.run files).2.files.entries p = files.files.entries p ∨
        (∃ value, c = .set c.key value) ∧ p ∈ start.way ∧ files.files.entries p = none ∧
          (c.run files).2.files.entries p = some .directory)) ∧
    (∀ key, IsPlain key →
      start.pathFor key = .ok (start.dir.join (key ++ ".json")) ∧
        (∀ p, files.files.locate (start.dir.join (key ++ ".json")) = .ok p →
          p = start.fileOf key) ∧
        (start.fileOf key).parent = start.home) ∧
    ∀ key other, start.fileOf key = start.fileOf other → key = other := by
  intro files memory
  have ht : Tracks start files memory := (Tracks.unwritten fun _ _ => rfl).runAll h cs
  obtain ⟨hd, hw⟩ := start.runAll_home cs
  have hway : files.way = start.way := by
    unfold way
    rw [hd, hw]
  have hfile (key : String) : files.fileOf key = start.fileOf key := by
    unfold fileOf home
    rw [hd, hw]
  refine ⟨(ht.run h c).1, fun hk s => s.run_of_not_isPlain c hk, ?_, ?_, fun _ _ => fileOf_inj⟩
  · intro hk p hp
    rw [← hfile] at hp
    rw [← hway]
    exact ⟨fun hnw e => files.run_alter c hk hnw hp, files.entries_run c hk hp⟩
  · intro key hk
    refine ⟨start.pathFor_of_isPlain hk, ?_, Location.parent_entry _ _⟩
    intro p hl
    rw [← hd] at hl
    rw [← hfile]
    exact locate_join_eq_ok hk.isName hl

theorem ok_of_isOk {x : Except FileError Unit} (h : x.isOk = true) : x = .ok () := by
  cases x with
  | error e => cases h
  | ok u => rfl

/-- A directory inside of one that is not there either. -/
theorem files_refine_memory_nested :
    let start : FileStore := ⟨⟨"state/dashboard"⟩, { nameLimit := none, pathLimit := none }⟩
    let files := Call.runAll
      [.get "a-1", .set "../b" "0", .set "a-1" "2", .remove "c", .set "a-1" "\u00fc"] start
    Prepared start ∧ (Call.run (.get "a-1") files).1 = .ok (some "\u00fc") ∧
      (Call.run (.get "../b") files).1 = .error (.invalidKey "../b") := by
  intro start files
  have hp : Prepared start := by
    constructor
    · exact ⟨rfl, rfl, fun _ => rfl⟩
    · exact ok_of_isOk (by decide +kernel)
    · exact enter_eq_ok_iff.mp (ok_of_isOk (by decide +kernel))
    · exact fun key _ => rfl
    · exact fun key _ => fileOf_notMem_way (by decide +kernel) key
  have ha : IsPlain "a-1" := (isValidKey_iff _).mp (by decide)
  have hb : ¬ IsPlain "../b" := fun h => absurd ((isValidKey_iff _).mpr h) (by decide)
  obtain ⟨hg, -⟩ := files_refine_memory hp
    [.get "a-1", .set "../b" "0", .set "a-1" "2", .remove "c", .set "a-1" "\u00fc"] (.get "a-1")
  obtain ⟨-, hr, -⟩ := files_refine_memory hp
    [.get "a-1", .set "../b" "0", .set "a-1" "2", .remove "c", .set "a-1" "\u00fc"] (.get "../b")
  exact ⟨hp, hg ha, congrArg Prod.fst (hr hb files)⟩

end FileStore
end Dashboard
