import Dashboard.CommandLine
import Dashboard.Proofs.FileConfinement
import Dashboard.Proofs.FirstLayout

/-!
# What a run leaves of the kept layout

A run of the program that only asks for something, or that fails, writes nothing. It can do no more
than what its start does, which is to remove the file of a layout that has been found and refused.
Every other file, and the file of any other layout, is afterwards what it was before, byte for byte.
This holds of every file system: the file of the layout may be missing, a directory or not text at
all, a layout may be asked to be replaced by the very file in which it is kept, and the device may
refuse any of the operations.

A run that keeps nothing changes no file at all. One that keeps the layout, changes it and ends
well prints the layout that it leaves in the file.
-/
namespace Dashboard

/-! ## The start -/

namespace FileStore
open FileSystem

theorem isPlain_snapshotKey : IsPlain snapshotKey := (isValidKey_iff _).mp (by decide)

/-- The file of a key is removed, or everything stays as it is. -/
theorem remove_cases (s : FileStore) {key : String} (h : IsPlain key) :
    (remove key s).2 = s ∨
      (remove key s).2 = { s with files := s.files.erase (s.fileOf key) } := by
  have hf : (remove key s).2 =
      { s with files := (s.files.removeFile (s.dir.join (key ++ ".json"))).2 } := by
    rw [s.remove_eq h]
    rcases s.files.removeFile (s.dir.join (key ++ ".json")) with ⟨e | u, files⟩
    · cases e <;> rfl
    · rfl
  rw [hf]
  unfold removeFile
  cases hl : s.files.locate (s.dir.join (key ++ ".json")) with
  | error e => exact .inl rfl
  | ok place =>
      obtain rfl := locate_join_eq_ok h.isName hl
      dsimp only
      split
      · exact .inl rfl
      · exact .inl rfl
      · exact .inl rfl
      · exact .inr rfl

/-- A text is kept in the directory and is refused: what is left of it without the blank characters
around it is something else than the bare word `null`, and cannot be decoded. -/
def Refused (s : FileStore) : Prop :=
  ∃ text error, s.files.readText (s.dir.join (snapshotKey ++ ".json")) = .ok text ∧
    trimmed text ≠ "" ∧ trimmed text ≠ "null" ∧ Snapshot.decode (trimmed text) = .error error

theorem readText_of_get {s : FileStore} {key text : String} (hk : IsPlain key)
    (h : get key s = .ok (some text)) :
    s.files.readText (s.dir.join (key ++ ".json")) = .ok text := by
  rw [s.get_eq hk] at h
  split at h
  next hr =>
    cases h
    exact hr
  · cases h
  · cases h

/-- A start reads, and removes at most what it refuses. -/
theorem backend_bootstrap_cases {σ : Type} [TokenSource σ] (s : FileStore) (tokens : σ)
    (settings : LayoutSettings) :
    (Store.bootstrap s tokens settings).backend = s ∨
      s.Refused ∧ (Store.bootstrap s tokens settings).backend =
        { s with files := s.files.erase (s.fileOf snapshotKey) } := by
  rw [Store.bootstrap_backend]
  cases ho : (Opening.ofText (Store.textRead s) tokens).origin with
  | restored => exact .inl rfl
  | defaulted => exact .inl rfl
  | recovered e =>
      obtain ⟨kept, hk, hd⟩ := (Opening.origin_eq_recovered_iff _ _ e).mp ho
      obtain ⟨text, hg, rfl, hb, hn⟩ := (Store.takesUp_iff s kept).mpr hk
      rcases s.remove_cases isPlain_snapshotKey with hr | hr
      · exact .inl hr
      · exact .inr ⟨⟨text, e, readText_of_get isPlain_snapshotKey hg, hb, hn, hd⟩, hr⟩

end FileStore

/-! ## The answer -/

/-- Whether a request only asks for something to be shown. -/
def Request.onlyAsks : Request → Bool
  | .show | .panes _ | .widgets => true
  | _ => false

theorem Store.backend_reportDrawing {σ β : Type} (s : Store σ β) :
    s.reportDrawing.backend = s.backend := by
  unfold reportDrawing
  cases s.layout <;> rfl

namespace CommandLine

section
variable {σ β : Type} [TokenSource σ] [KeyValueStore β]

/-- A command about the layout is refused, and the backend is not asked for anything, or the layout
to which it leads is printed and written. -/
theorem change_cases (s : Store σ β) {c : Command} (hc : c.editsLayout = true) :
    (∃ e, (change s c).1 = .error e ∧ (change s c).2.backend = s.backend) ∨
    ∃ l, (change s c).1 = .ok (layoutText l) ∧
      (change s c).2.backend = (KeyValueStore.set snapshotKey (Layout.encode l) s.backend).2 := by
  obtain ⟨log, hs⟩ := s.handle_eq c
  unfold change
  cases hv : s.verdict c with
  | refused e tokens =>
      rw [hv] at hs
      simp only [hs, Verdict.answer]
      exact .inl ⟨_, rfl, rfl⟩
  | installed l tokens =>
      rw [hv] at hs
      simp only [hs, Verdict.answer]
      exact .inr ⟨l, rfl, Store.backend_reportDrawing _⟩
  | turned view =>
      rw [(s.editsLayout_eq_false_iff c).mpr ⟨view, hv⟩] at hc
      cases hc

/-- What only asks and what fails leave the backend as it was. Everything else prints a layout and
writes it. -/
theorem answer_cases (filesOf : β → FileSystem) (s : Store σ β) (r : Request) :
    (r.onlyAsks = true ∧ (answer filesOf s r).2.backend = s.backend) ∨
    (∃ e, (answer filesOf s r).1 = .error e ∧ (answer filesOf s r).2.backend = s.backend) ∨
    r.onlyAsks = false ∧ ∃ l, (answer filesOf s r).1 = .ok (layoutText l) ∧
      (answer filesOf s r).2.backend =
        (KeyValueStore.set snapshotKey (Layout.encode l) s.backend).2 := by
  cases r with
  | «show» => exact .inl ⟨rfl, rfl⟩
  | panes json => cases json <;> exact .inl ⟨rfl, rfl⟩
  | widgets => exact .inl ⟨rfl, rfl⟩
  | replace file =>
      simp only [answer]
      cases layoutIn (filesOf s.backend) file with
      | error e => exact .inr (.inl ⟨e, rfl, rfl⟩)
      | ok l => exact .inr ((change_cases s rfl).imp_right fun h => ⟨rfl, h⟩)
  | _ => exact .inr ((change_cases s rfl).imp_right fun h => ⟨rfl, h⟩)

theorem serve_cases (filesOf : β → FileSystem) (backend : β) (tokens : σ)
    (settings : LayoutSettings) (r : Request) :
    ((r.onlyAsks = true ∨ (serve filesOf backend tokens settings r).1.code ≠ 0) ∧
      (serve filesOf backend tokens settings r).2.1 =
        (Store.bootstrap backend tokens settings).backend) ∨
    (r.onlyAsks = false ∧ (serve filesOf backend tokens settings r).1.code = 0) ∧
      ∃ l, (serve filesOf backend tokens settings r).1.stdout = layoutText l ∧
        (serve filesOf backend tokens settings r).2.1 =
          (KeyValueStore.set snapshotKey (Layout.encode l)
            (Store.bootstrap backend tokens settings).backend).2 := by
  unfold serve
  dsimp only
  rcases answer_cases filesOf (Store.bootstrap backend tokens settings) r with
    ⟨hr, hb⟩ | ⟨e, ha, hb⟩ | ⟨hr, l, ha, hb⟩
  · exact .inl ⟨.inl hr, hb⟩
  · rw [ha]
    exact .inl ⟨.inr Nat.one_ne_zero, hb⟩
  · rw [ha]
    exact .inr ⟨⟨hr, rfl⟩, l, rfl, hb⟩

end

/-! ## The run -/

section
variable {σ : Type} [TokenSource σ]

/-- The directory in which an invocation keeps its layout, unless it ends before or keeps none. -/
def keptIn? (files : FileSystem) (e : Environment) (i : Invocation) : Option Path :=
  match configOf files e i with
  | .error _ => none
  | .ok config => if config.persist then i.stateDir <|> config.stateDirIn? e else none

/-- An invocation that keeps no layout changes no file. Any other one works on the files of its
directory. -/
theorem runInvocation_cases (files : FileSystem) (e : Environment) (tokens : σ) (i : Invocation) :
    (keptIn? files e i = none ∧ (runInvocation files e tokens i).2.1 = files) ∨
    ∃ dir config, keptIn? files e i = some dir ∧ configOf files e i = .ok config ∧
      (runInvocation files e tokens i).1 =
        (serve FileStore.files ⟨dir, files⟩ tokens config.layout i.request).1 ∧
      (runInvocation files e tokens i).2.1 =
        (serve FileStore.files ⟨dir, files⟩ tokens config.layout i.request).2.1.files := by
  unfold keptIn? runInvocation
  cases configOf files e i with
  | error error => exact .inl ⟨rfl, rfl⟩
  | ok config =>
      dsimp only
      split
      · cases i.stateDir <|> config.stateDirIn? e with
        | none => exact .inl ⟨rfl, rfl⟩
        | some dir => exact .inr ⟨dir, config, rfl, rfl, rfl, rfl⟩
      · exact .inl ⟨rfl, rfl⟩

theorem files_of_asking_or_failing {files : FileSystem} {e : Environment} {tokens : σ}
    {i : Invocation}
    (h : i.request.onlyAsks = true ∨ (runInvocation files e tokens i).1.code ≠ 0) :
    (runInvocation files e tokens i).2.1 = files ∨
      ∃ dir, keptIn? files e i = some dir ∧ FileStore.Refused ⟨dir, files⟩ ∧
        (runInvocation files e tokens i).2.1 =
          files.erase (FileStore.fileOf ⟨dir, files⟩ snapshotKey) := by
  rcases runInvocation_cases files e tokens i with ⟨-, hf⟩ | ⟨dir, config, hk, -, ho, hf⟩
  · exact .inl hf
  rw [ho] at h
  rw [hf]
  rcases serve_cases FileStore.files ⟨dir, files⟩ tokens config.layout i.request with
    ⟨-, hb⟩ | ⟨⟨hr, hc⟩, -⟩
  · rw [hb]
    rcases FileStore.backend_bootstrap_cases ⟨dir, files⟩ tokens config.layout with
      hs | ⟨hd, hs⟩
    · exact .inl (congrArg FileStore.files hs)
    · exact .inr ⟨dir, hk, hd, congrArg FileStore.files hs⟩
  · rw [hr, hc] at h
    rcases h with h | h
    · cases h
    · exact (h rfl).elim

theorem files_of_not_persist {files : FileSystem} {e : Environment} {i : Invocation}
    {config : Config} (hc : configOf files e i = .ok config) (hp : config.persist = false)
    (tokens : σ) : (runInvocation files e tokens i).2.1 = files := by
  have hn : keptIn? files e i = none := by
    unfold keptIn?
    rw [hc]
    dsimp only
    rw [hp]
    rfl
  rcases runInvocation_cases files e tokens i with ⟨-, hf⟩ | ⟨dir, _, hk, -, -, -⟩
  · exact hf
  · rw [hn] at hk
    cases hk

theorem files_of_change {files : FileSystem} {e : Environment} {tokens : σ} {i : Invocation}
    {dir : Path} {config : Config} (hk : keptIn? files e i = some dir)
    (hc : configOf files e i = .ok config) (hr : i.request.onlyAsks = false)
    (h : (runInvocation files e tokens i).1.code = 0) :
    ∃ l, (runInvocation files e tokens i).1.stdout = layoutText l ∧
      (runInvocation files e tokens i).2.1 =
        (KeyValueStore.set snapshotKey (Layout.encode l)
          (Store.bootstrap (⟨dir, files⟩ : FileStore) tokens config.layout).backend).2.files := by
  rcases runInvocation_cases files e tokens i with ⟨hn, -⟩ | ⟨dir', config', hk', hc', ho, hf⟩
  · rw [hn] at hk
    cases hk
  obtain rfl : dir = dir' := Option.some.inj (hk.symm.trans hk')
  obtain rfl : config = config' := Except.ok.inj (hc.symm.trans hc')
  rw [ho] at h ⊢
  rw [hf]
  rcases serve_cases FileStore.files ⟨dir, files⟩ tokens config.layout i.request with
    ⟨hr' | hc', -⟩ | ⟨-, l, hs, hb⟩
  · rw [hr] at hr'
    cases hr'
  · exact (hc' h).elim
  · exact ⟨l, hs, congrArg FileStore.files hb⟩

/-- What a run of the program leaves of the files, for all files, settings and arguments: what asks
and what fails, what keeps nothing, and what changes the layout. -/
theorem kept_layout_of_run (files : FileSystem) (e : Environment) (tokens : σ)
    (args : List String) :
    let outcome := (run files e tokens args).1
    let after := (run files e tokens args).2.1
    ((∃ i, Parsed.ofArguments args = .run i ∧ i.request.onlyAsks = true) ∨ outcome.code ≠ 0 →
      after = files ∨
        ∃ i dir, Parsed.ofArguments args = .run i ∧ keptIn? files e i = some dir ∧
          FileStore.Refused ⟨dir, files⟩ ∧
          after = files.erase (FileStore.fileOf ⟨dir, files⟩ snapshotKey)) ∧
    (∀ i config, Parsed.ofArguments args = .run i → configOf files e i = .ok config →
      config.persist = false → after = files) ∧
    ∀ i dir config, Parsed.ofArguments args = .run i → keptIn? files e i = some dir →
      configOf files e i = .ok config → i.request.onlyAsks = false → outcome.code = 0 →
        ∃ l, outcome.stdout = layoutText l ∧
          after = (KeyValueStore.set snapshotKey (Layout.encode l)
            (Store.bootstrap (⟨dir, files⟩ : FileStore) tokens config.layout).backend).2.files := by
  intro outcome after
  cases hp : Parsed.ofArguments args with
  | run i =>
      have hr : run files e tokens args = runInvocation files e tokens i := by
        unfold run
        rw [hp]
      simp only [outcome, after, hr, Parsed.run.injEq]
      refine ⟨?_, ?_, ?_⟩
      · rintro (⟨_, rfl, ha⟩ | hc)
        · exact (files_of_asking_or_failing (.inl ha)).imp_right fun ⟨dir, h⟩ => ⟨_, dir, rfl, h⟩
        · exact (files_of_asking_or_failing (.inr hc)).imp_right fun ⟨dir, h⟩ => ⟨_, dir, rfl, h⟩
      · rintro _ config rfl hc hn
        exact files_of_not_persist hc hn tokens
      · rintro _ dir config rfl hk hc hr h
        exact files_of_change hk hc hr h
  | _ =>
      -- nothing is run, and the files stay as they are
      have hf : after = files := by
        simp only [after]
        unfold run
        rw [hp]
      refine ⟨fun _ => .inl hf, fun _ _ hi => ?_, fun _ _ _ hi => ?_⟩ <;> cases hi

end

theorem ok_of_toOption {ε α : Type} {x : Except ε α} {a : α} (h : x.toOption = some a) :
    x = .ok a := by
  cases x with
  | error e => cases h
  | ok b => exact congrArg Except.ok (Option.some.inj h)

/-- A file that sets up a program that keeps nothing, and a state directory in which the kept layout
is a single byte that is not text. -/
def keptByte : FileSystem :=
  let dir := Location.root.entry "s"
  ((({} : FileSystem).put (Location.root.entry "c") (.file "persist = false".toUTF8)).put
    dir .directory).put (dir.entry "mosaic_layout.json") (.file (ByteArray.mk #[0xff]))

/-- The layout is to be replaced by the file in which it is kept. -/
def replacingByItself : List String :=
  ["--config", "missing", "--state-dir", "s", "replace", "s/mosaic_layout.json"]

/-- A pane is to be added under the settings of a file. -/
def adding (config : String) : List String :=
  ["--config", config, "--state-dir", "s", "add", "metrics"]

/-- The kept byte is there after a layout should have been replaced by it, and after a change that
keeps nothing. A change that keeps the layout writes over it. -/
theorem kept_layout_of_runs_keptByte :
    ((run keptByte {} (⟨[]⟩ : RandomTokens) replacingByItself).1.code = 1 ∧
      (run keptByte {} (⟨[]⟩ : RandomTokens) replacingByItself).2.1 = keptByte) ∧
    (run keptByte {} (⟨[]⟩ : RandomTokens) (adding "c")).2.1 = keptByte ∧
    (run keptByte {} (⟨[]⟩ : RandomTokens) (adding "missing")).1.code = 0 ∧
    ∃ l, (run keptByte {} (⟨[]⟩ : RandomTokens) (adding "missing")).1.stdout = layoutText l ∧
      (run keptByte {} (⟨[]⟩ : RandomTokens) (adding "missing")).2.1 =
        (KeyValueStore.set snapshotKey (Layout.encode l) (Store.bootstrap
          (⟨⟨"s"⟩, keptByte⟩ : FileStore) (⟨[]⟩ : RandomTokens) {}).backend).2.files := by
  refine ⟨?replacing, ?keepingNothing, ?adding⟩
  case replacing =>
    have hc : (run keptByte {} (⟨[]⟩ : RandomTokens) replacingByItself).1.code = 1 := by
      decide +kernel
    refine ⟨hc, ?_⟩
    obtain ⟨hfail, -, -⟩ := kept_layout_of_run keptByte {} (⟨[]⟩ : RandomTokens) replacingByItself
    rcases hfail (.inr (hc ▸ Nat.one_ne_zero)) with hf | ⟨i, dir, hi, hk, hd, -⟩
    · exact hf
    -- what is kept is not text, so that it cannot have been refused
    · have hparsed : Parsed.ofArguments replacingByItself =
          .run ⟨some ⟨"missing"⟩, some ⟨"s"⟩, .replace ⟨"s/mosaic_layout.json"⟩⟩ := by
        decide +kernel
      obtain rfl := Parsed.run.inj (hparsed.symm.trans hi)
      have hdir : keptIn? keptByte {} ⟨some ⟨"missing"⟩, some ⟨"s"⟩,
          .replace ⟨"s/mosaic_layout.json"⟩⟩ = some ⟨"s"⟩ := by
        decide +kernel
      obtain rfl := Option.some.inj (hdir.symm.trans hk)
      obtain ⟨text, _, ht, -⟩ := hd
      have hn : (keptByte.readText ((⟨"s"⟩ : Path).join (snapshotKey ++ ".json"))).isOk =
          false := by
        decide +kernel
      rw [ht] at hn
      cases hn
  case keepingNothing =>
    obtain ⟨-, hkeep, -⟩ := kept_layout_of_run keptByte {} (⟨[]⟩ : RandomTokens) (adding "c")
    have hparsed : Parsed.ofArguments (adding "c") =
        .run ⟨some ⟨"c"⟩, some ⟨"s"⟩, .add "metrics"⟩ := by
      decide +kernel
    have hconfig : configOf keptByte {} ⟨some ⟨"c"⟩, some ⟨"s"⟩, .add "metrics"⟩ =
        .ok { persist := false } :=
      ok_of_toOption (by decide +kernel)
    exact hkeep _ _ hparsed hconfig rfl
  case adding =>
    obtain ⟨-, -, hchange⟩ :=
      kept_layout_of_run keptByte {} (⟨[]⟩ : RandomTokens) (adding "missing")
    have hparsed : Parsed.ofArguments (adding "missing") =
        .run ⟨some ⟨"missing"⟩, some ⟨"s"⟩, .add "metrics"⟩ := by
      decide +kernel
    have hdir : keptIn? keptByte {} ⟨some ⟨"missing"⟩, some ⟨"s"⟩, .add "metrics"⟩ =
        some ⟨"s"⟩ := by
      decide +kernel
    have hconfig : configOf keptByte {} ⟨some ⟨"missing"⟩, some ⟨"s"⟩, .add "metrics"⟩ =
        .ok {} :=
      ok_of_toOption (by decide +kernel)
    have hc : (run keptByte {} (⟨[]⟩ : RandomTokens) (adding "missing")).1.code = 0 := by
      decide +kernel
    have hwritten := hchange _ _ _ hparsed hdir hconfig rfl hc
    exact ⟨hc, hwritten⟩

end CommandLine
end Dashboard
