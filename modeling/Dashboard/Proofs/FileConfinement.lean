import Dashboard.Proofs.DirectoryCreation

/-!
# Every key has its own file

A call on texts in files looks at the way to the directory and at the file of its key, and changes
the file of its key. Only the first writing also creates the directory. This holds of every file
system and whether or not operations fail. A key that is not plain is refused before anything is
looked up.
-/
namespace Dashboard

namespace Call

def key : Call → String
  | .get key | .set key _ | .remove key => key

variable {β : Type} [KeyValueStore β]

/-- Carries out a call. What is answered to a call that asks for nothing is the empty answer. -/
def run : Call → β → Except PersistError (Option String) × β
  | .get key, b => KeyValueStore.get key b
  | .set key value, b =>
      ((KeyValueStore.set key value b).1.map fun _ => none, (KeyValueStore.set key value b).2)
  | .remove key, b =>
      ((KeyValueStore.remove key b).1.map fun _ => none, (KeyValueStore.remove key b).2)

/-- The backend after a sequence of calls. -/
def runAll : List Call → β → β
  | [], b => b
  | c :: cs, b => runAll cs (c.run b).2

end Call

namespace FileStore
open FileSystem

/-! ## Places -/

/-- The place of the directory. -/
def home (s : FileStore) : Location := s.dir.place s.files.workingDirectory

/-- The places on the way to the directory, which is the last of them. -/
def way (s : FileStore) : List Location := s.dir.way s.files.workingDirectory

/-- The place of the file of a key. -/
def fileOf (s : FileStore) (key : String) : Location := s.home.entry (key ++ ".json")

/-- Replaces what is found at a location by other means than a call. -/
def alter (s : FileStore) (p : Location) (e : Option Entry) : FileStore :=
  { s with files := s.files.alter p e }

theorem fileOf_inj {s : FileStore} {key other : String} (h : s.fileOf key = s.fileOf other) :
    key = other := by
  have he := congrArg String.toList (Location.entry_inj h)
  rw [String.toList_append, String.toList_append] at he
  exact String.toList_inj.mp (List.append_cancel_right he)

theorem fileOf_ne_root (s : FileStore) (key : String) : s.fileOf key ≠ .root :=
  s.home.entry_ne_root _

theorem pathFor_of_isPlain (s : FileStore) {key : String} (h : IsPlain key) :
    s.pathFor key = .ok (s.dir.join (key ++ ".json")) :=
  if_pos ((isValidKey_iff key).mpr h)

theorem pathFor_of_not_isPlain (s : FileStore) {key : String} (h : ¬ IsPlain key) :
    s.pathFor key = .error (.invalidKey key) :=
  if_neg fun hv => h ((isValidKey_iff key).mp hv)

/-! ## A call with a plain key -/

theorem get_eq (s : FileStore) {key : String} (h : IsPlain key) :
    get key s =
      match s.files.readText (s.dir.join (key ++ ".json")) with
      | .ok text => .ok (some text)
      | .error .missing => .ok none
      | .error .refused => .error (.inaccessible (s.dir.join (key ++ ".json"))) := by
  have hp := s.pathFor_of_isPlain h
  unfold get
  revert hp
  generalize s.pathFor key = path
  rintro rfl
  rfl

theorem set_eq (s : FileStore) {key : String} (h : IsPlain key) (value : String) :
    set key value s =
      match s.files.createDirectory s.dir with
      | (.error _, files) => (.error (.inaccessible s.dir), { s with files })
      | (.ok (), files) =>
          match files.overwrite (s.dir.join (key ++ ".json")) value.toUTF8 with
          | (.error _, files) =>
              (.error (.inaccessible (s.dir.join (key ++ ".json"))), { s with files })
          | (.ok (), files) => (.ok (), { s with files }) := by
  unfold set overwrite
  rw [s.pathFor_of_isPlain h]
  dsimp only
  rcases s.files.createDirectory s.dir with ⟨e | u, made⟩
  · rfl
  · dsimp only
    rcases made.createFile (s.dir.join (key ++ ".json")) with ⟨e | u, files⟩
    · rfl
    · rfl

theorem remove_eq (s : FileStore) {key : String} (h : IsPlain key) :
    remove key s =
      match s.files.removeFile (s.dir.join (key ++ ".json")) with
      | (.error .refused, files) =>
          (.error (.inaccessible (s.dir.join (key ++ ".json"))), { s with files })
      | (.error .missing, files) | (.ok (), files) => (.ok (), { s with files }) := by
  have hp := s.pathFor_of_isPlain h
  unfold remove
  revert hp
  generalize s.pathFor key = path
  rintro rfl
  rfl

/-! ## Any other key -/

theorem run_of_not_isPlain (s : FileStore) (c : Call) (h : ¬ IsPlain c.key) :
    c.run s = (.error (.invalidKey c.key), s) := by
  cases c with
  | get key =>
      have h' : ¬ IsPlain key := h
      have hp := s.pathFor_of_not_isPlain h'
      simp only [Call.run, KeyValueStore.get, get, hp]
      rfl
  | set key value =>
      have h' : ¬ IsPlain key := h
      have hp := s.pathFor_of_not_isPlain h'
      simp only [Call.run, KeyValueStore.set, set, hp]
      rfl
  | remove key =>
      have h' : ¬ IsPlain key := h
      have hp := s.pathFor_of_not_isPlain h'
      simp only [Call.run, KeyValueStore.remove, remove, hp]
      rfl

/-! ## What a call does not read -/

section
variable {s : FileStore} {key : String} (h : IsPlain key) {p : Location} {e : Option Entry}
  (hp : p ∉ s.way) (hf : p ≠ s.fileOf key)
include h hp hf

theorem get_alter : get key (s.alter p e) = get key s := by
  rw [get_eq _ h, get_eq _ h]
  simp only [alter, readText_alter h.isName hp hf]

theorem set_alter (value : String) :
    set key value (s.alter p e) = ((set key value s).1, (set key value s).2.alter p e) := by
  have hw := (s.files.grownAlong_createDirectory s.dir).workingDirectory
  rw [set_eq _ h, set_eq _ h]
  simp only [alter, createDirectory_alter hp]
  rcases hm : s.files.createDirectory s.dir with ⟨e' | u, made⟩
  · rfl
  · rw [hm] at hw
    have hp' : p ∉ s.dir.way made.workingDirectory := by
      rw [hw]
      exact hp
    have hf' : p ≠ (s.dir.place made.workingDirectory).entry (key ++ ".json") := by
      rw [hw]
      exact hf
    simp only [overwrite_alter h.isName hp' hf']
    rcases made.overwrite (s.dir.join (key ++ ".json")) value.toUTF8 with ⟨e' | u, files⟩
    · rfl
    · rfl

theorem remove_alter :
    remove key (s.alter p e) = ((remove key s).1, (remove key s).2.alter p e) := by
  rw [remove_eq _ h, remove_eq _ h]
  simp only [alter, removeFile_eq_edit, refuses_alter, edit_alter h.isName hp hf]
  rcases s.files.edit (s.dir.join (key ++ ".json")) (removed (s.files.refuses .removeFile)) with
    ⟨e | u, files⟩
  · cases e <;> rfl
  · rfl

end

/-! ## What a call changes -/

theorem exists_set (s : FileStore) {key : String} (h : IsPlain key) (value : String) :
    ∃ grown e, GrownAlong s.way s.files grown ∧
      (set key value s).2 = { s with files := grown.alter (s.fileOf key) e } := by
  have hg := s.files.grownAlong_createDirectory s.dir
  unfold fileOf home
  rw [s.set_eq h, ← hg.workingDirectory]
  rcases hm : s.files.createDirectory s.dir with ⟨e | u, made⟩ <;> rw [hm] at hg
  · refine ⟨made, made.entries ((s.dir.place made.workingDirectory).entry (key ++ ".json")), hg, ?_⟩
    rw [alter_eq_self rfl]
  · obtain ⟨e, he⟩ := exists_overwrite h.isName made s.dir value.toUTF8
    refine ⟨made, e, hg, ?_⟩
    rw [← he]
    dsimp only
    rcases made.overwrite (s.dir.join (key ++ ".json")) value.toUTF8 with ⟨e' | u, files⟩
    · rfl
    · rfl

/-- The files after a call: the directory may have been created, and the file of the key may have
changed. -/
theorem exists_run (s : FileStore) (c : Call) (h : IsPlain c.key) :
    ∃ grown e, GrownAlong s.way s.files grown ∧
      ((∀ value, c ≠ .set c.key value) → grown = s.files) ∧
      (c.run s).2 = { s with files := grown.alter (s.fileOf c.key) e } := by
  cases c with
  | get key =>
      refine ⟨s.files, s.files.entries (s.fileOf key), .refl _ _, fun _ => rfl, ?_⟩
      change s = { s with files := s.files.alter (s.fileOf key) (s.files.entries (s.fileOf key)) }
      rw [alter_eq_self rfl]
  | remove key =>
      have h' : IsPlain key := h
      obtain ⟨e, he⟩ := exists_edit h'.isName s.files s.dir (removed (s.files.refuses .removeFile))
      refine ⟨s.files, e, .refl _ _, fun _ => rfl, ?_⟩
      have hr : (remove key s).2 =
          { s with files := (s.files.removeFile (s.dir.join (key ++ ".json"))).2 } := by
        rw [s.remove_eq h']
        rcases s.files.removeFile (s.dir.join (key ++ ".json")) with ⟨e | u, files⟩
        · cases e <;> rfl
        · rfl
      rw [removeFile_eq_edit, he] at hr
      exact hr
  | set key value =>
      obtain ⟨grown, e, hg, hr⟩ := exists_set s h value
      exact ⟨grown, e, hg, fun hc => (hc value rfl).elim, hr⟩

/-- A call takes no notice of what is found elsewhere, and leaves it as it is. -/
theorem run_alter (s : FileStore) (c : Call) (h : IsPlain c.key) {p : Location} {e : Option Entry}
    (hp : p ∉ s.way) (hf : p ≠ s.fileOf c.key) :
    c.run (s.alter p e) = ((c.run s).1, (c.run s).2.alter p e) := by
  cases c with
  | get key => exact congrArg (·, s.alter p e) (get_alter h hp hf)
  | set key value =>
      have hs : set key value (s.alter p e) = _ := set_alter h hp hf value
      simp only [Call.run, Call.key, KeyValueStore.set, hs]
  | remove key =>
      have hr : remove key (s.alter p e) = _ := remove_alter h hp hf
      simp only [Call.run, Call.key, KeyValueStore.remove, hr]

/-- Besides the file of its key, a call changes nothing but to put directories where there was
nothing on the way, and this only in order to write. -/
theorem entries_run (s : FileStore) (c : Call) (h : IsPlain c.key) {p : Location}
    (hf : p ≠ s.fileOf c.key) :
    (c.run s).2.files.entries p = s.files.entries p ∨
      (∃ value, c = .set c.key value) ∧ p ∈ s.way ∧ s.files.entries p = none ∧
        (c.run s).2.files.entries p = some .directory := by
  obtain ⟨grown, e, hg, hs, hr⟩ := s.exists_run c h
  have he : (c.run s).2.files.entries p = grown.entries p := by
    rw [hr]
    exact entries_alter_of_ne hf
  rw [he]
  by_cases hw : ∃ value, c = .set c.key value
  · obtain ⟨entries, rfl, hd⟩ := hg
    rcases hd p with hsame | hd
    · exact .inl hsame
    · exact .inr ⟨hw, hd⟩
  · rw [hs fun value hc => hw ⟨value, hc⟩]
    exact .inl rfl

/-- The directory stays where it is. -/
theorem run_home (s : FileStore) (c : Call) :
    (c.run s).2.dir = s.dir ∧
      (c.run s).2.files.workingDirectory = s.files.workingDirectory := by
  by_cases h : IsPlain c.key
  · obtain ⟨grown, e, hg, -, hr⟩ := s.exists_run c h
    rw [hr]
    exact ⟨rfl, hg.workingDirectory⟩
  · rw [s.run_of_not_isPlain c h]
    exact ⟨rfl, rfl⟩

theorem runAll_home (s : FileStore) (cs : List Call) :
    (Call.runAll cs s).dir = s.dir ∧
      (Call.runAll cs s).files.workingDirectory = s.files.workingDirectory := by
  induction cs generalizing s with
  | nil => exact ⟨rfl, rfl⟩
  | cons c cs ih =>
      obtain ⟨hd, hw⟩ := ih (c.run s).2
      obtain ⟨hd', hw'⟩ := s.run_home c
      exact ⟨hd.trans hd', hw.trans hw'⟩

end FileStore
end Dashboard
