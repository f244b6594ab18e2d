import Dashboard.Proofs.KeptText
import Dashboard.Proofs.SnapshotCodec
import Dashboard.Proofs.UniquePanes

/-!
# Starting again

What a session has kept reads back as the layout that was written last, unless this nests deeper
than what is read. The layouts that are written repeat no identity, so nothing else is refused.

Once a change has been accepted and written, the text under the key is that of the current layout.
A second session on the same backend takes this layout over, without drawing a token and without
writing, as long as it nests no deeper than what is read. A layout may become deeper than that, one
pane at a time, and is written all the same. The next session refuses it, removes it and starts
from the default layout.
-/
namespace Dashboard

/-! ## What is left of a written text -/

theorem trimBlank_eq_self {c d : Char} (cs : List Char) (hc : isBlank c = false)
    (hd : isBlank d = false) : trimBlank (c :: (cs ++ [d])) = c :: (cs ++ [d]) := by
  simp [trimBlank, dropBlankEnd, hc, hd]

namespace Store
open AtomicBackend

theorem significant?_eq_some {text : String} {c d : Char} {cs : List Char}
    (h : text.toList = c :: (cs ++ [d])) (hc : isBlank c = false) (hd : isBlank d = false)
    (hn : c ≠ 'n') : significant? text = some text := by
  have ht : String.ofList (trimBlank text.toList) = text := by
    rw [h, trimBlank_eq_self cs hc hd, ← h, String.ofList_toList]
  have he : text.isEmpty = false := by
    rw [Bool.eq_false_iff]
    intro he
    rw [String.isEmpty_iff.mp he] at h
    cases h
  have hw : text ≠ "null" := by
    rintro rfl
    exact hn (List.cons.inj h).1.symm
  unfold significant?
  simp only [ht, he, hw, Bool.false_eq_true, or_self, if_false]

/-- The text of a layout that is not empty counts as it is. -/
theorem significant?_encode (n : Node) :
    significant? (Layout.encode (some n)) = some (Layout.encode (some n)) := by
  cases n with
  | leaf id =>
      have h := Json.compact_text id.text
      exact significant?_eq_some h (by decide) (by decide) (by decide)
  | branch split first second =>
      obtain ⟨cs, h⟩ := Json.compact_object _
      exact significant?_eq_some h (by decide) (by decide) (by decide)

/-! ## What a session has kept -/

section
variable {σ β : Type} [TokenSource σ] [KeyValueStore β]

theorem Step.accepted?_of_written? {e : Step σ β} {l : Layout} (h : e.written? = some l) :
    e.accepted? = some l := by
  unfold written? at h
  cases ha : e.accepted? with
  | none =>
      rw [ha] at h
      cases h
  | some kept =>
      rw [ha] at h
      dsimp only at h
      split at h
      · exact h
      · cases h

theorem Step.nodup_of_accepted? {e : Step σ β} {l : Layout} (h : e.accepted? = some l) :
    (Layout.leaves l).Nodup := by
  rw [e.accepted?_eq] at h
  exact Command.verdict_nodup h

/-- Whatever fails in a session, the kept text reads back as the layout that was written last. -/
theorem read_held_run [AtomicBackend β] (s : Store σ β) (cs : List Command) {l : Layout}
    (hl : ((s.steps cs).filterMap Step.written?).getLast? = some l)
    (hp : ∀ p ∈ Layout.percentages l, NumberLiteral.ReadsBack p) :
    ∃ text, held (s.run cs).backend snapshotKey = some text ∧
      (Layout.nesting l ≤ 127 → Layout.read? text = some l ∧ Snapshot.decode text = .ok l) ∧
      (128 ≤ Layout.nesting l →
        Layout.read? text = none ∧ Snapshot.decode text = .error .notJson) := by
  have hu : (Layout.leaves l).Nodup := by
    obtain ⟨e, -, he⟩ := List.mem_filterMap.mp (List.mem_of_getLast? hl)
    exact Step.nodup_of_accepted? (Step.accepted?_of_written? he)
  refine ⟨Layout.encode l, ?_, ?_, ?_⟩
  · rw [held_run, lastText, hl]
  · intro hn
    rw [Layout.read?_encode hp, Snapshot.decode_encode_of_nesting hp hn,
      Layout.checkUnique_of_nodup hu]
    exact ⟨if_pos hn, rfl⟩
  · intro hn
    rw [Layout.read?_encode hp, Snapshot.decode_encode_of_lt_nesting hp hn]
    exact ⟨if_neg (Nat.not_le_of_lt hn), rfl⟩

end

section
variable {σ β : Type} [KeyValueStore β] [AtomicBackend β]

/-- Whether the text under the key is that of the current layout. -/
def IsKept (s : Store σ β) : Prop := held s.backend snapshotKey = some (Layout.encode s.layout)

variable [ReliableBackend β]

theorem textRead_eq_held (backend : β) : textRead backend = held backend snapshotKey := by
  obtain ⟨text, ht⟩ := ReliableBackend.get_succeeds snapshotKey backend
  unfold textRead
  rw [ht]
  exact answer_get ht

theorem held_after_recovered {backend : β} (e : LayoutError) (key : String) :
    held (backendAfterStart (.recovered e) backend) key =
      if key = snapshotKey then none else held backend key := by
  rw [held_after_start]
  simp only [leftByStart, ReliableBackend.remove_succeeds]

/-! ## The start from a kept layout -/

section Opening
variable {s : Store σ β} (hk : IsKept s) {n : Node} (hn : s.layout = some n)
  {τ : Type} [TokenSource τ] (later : τ)
include hk hn

theorem opening_of_isKept :
    Opening.ofText (textRead s.backend) later =
      .ofDecoded later (Snapshot.decode (Layout.encode (some n))) := by
  unfold IsKept at hk
  rw [textRead_eq_held, hk, hn]
  unfold Opening.ofText
  simp only [Option.bind_some, significant?_encode]

variable (hp : ∀ p ∈ n.percentages, NumberLiteral.ReadsBack p)
include hp

theorem opening_of_nesting (hu : (Layout.leaves s.layout).Nodup) (hs : n.nesting ≤ 127) :
    Opening.ofText (textRead s.backend) later = ⟨.restored, s.layout, later⟩ := by
  have ho := opening_of_isKept hk hn later
  rw [hn] at hu ⊢
  rw [Snapshot.decode_encode_of_nesting (l := some n) hp hs, Layout.checkUnique_of_nodup hu] at ho
  exact ho

theorem opening_of_lt_nesting (hs : 128 ≤ n.nesting) :
    Opening.ofText (textRead s.backend) later = .byDefault (.recovered .notJson) later := by
  have ho := opening_of_isKept hk hn later
  rw [Snapshot.decode_encode_of_lt_nesting (l := some n) hp hs] at ho
  exact ho

end Opening

/-! ## What a session keeps when no operation fails -/

variable [TokenSource σ]

theorem Step.isKept_of_accepted {e : Step σ β} {l : Layout} (h : e.accepted? = some l) :
    IsKept e.after := by
  unfold IsKept
  rw [e.layout_after, e.backend_after, h]
  simp [held_set, ReliableBackend.set_succeeds]

/-- A command that does not change the layout does not write either. -/
theorem Step.isKept_after {e : Step σ β} (h : IsKept e.before) : IsKept e.after := by
  cases ha : e.accepted? with
  | some l => exact Step.isKept_of_accepted ha
  | none =>
      unfold IsKept at h ⊢
      rw [e.layout_after, e.backend_after, ha]
      exact h

theorem isKept_run {s : Store σ β} (h : IsKept s) (cs : List Command) : IsKept (s.run cs) :=
  run_induction (P := IsKept) h (fun s c hs => Step.isKept_after (e := ⟨s, c⟩) hs) cs

/-- From the first accepted change on the current layout is kept. -/
theorem isKept_run_of_accepted {s : Store σ β} {cs : List Command}
    (h : ∃ e ∈ s.steps cs, e.accepted?.isSome) : IsKept (s.run cs) := by
  induction cs generalizing s with
  | nil =>
      obtain ⟨e, he, -⟩ := h
      cases he
  | cons c cs ih =>
      obtain ⟨e, he, ha⟩ := h
      rcases List.mem_cons.mp he with rfl | he
      -- the accepted command writes, and the commands after it keep what is written
      · obtain ⟨l, hl⟩ := Option.isSome_iff_exists.mp ha
        exact isKept_run (Step.isKept_of_accepted hl) cs
      · exact ih ⟨e, he, ha⟩

/-! ## The next session -/

/-- What a second session makes of the layout that the first one has left, provided that a change
has been accepted and the percentages read back. -/
theorem restart_of_session {τ : Type} [TokenSource τ] (backend : β) (tokens : σ) (later : τ)
    (settings laterSettings : LayoutSettings) (cs : List Command) {n : Node}
    (hc : ∃ e ∈ (bootstrap backend tokens settings).steps cs, e.accepted?.isSome)
    (hn : ((bootstrap backend tokens settings).run cs).layout = some n)
    (hp : ∀ p ∈ n.percentages, NumberLiteral.ReadsBack p) :
    let ended := (bootstrap backend tokens settings).run cs
    let started := bootstrap ended.backend later laterSettings
    (n.nesting ≤ 127 →
      started.origin = .restored ∧ started.layout = ended.layout ∧ started.tokens = later ∧
        ∀ key, held started.backend key = held ended.backend key) ∧
    (128 ≤ n.nesting →
      started.origin = .recovered .notJson ∧
        started.layout = (Layout.instantiate Preset.default.template later).1 ∧
        ∀ key, held started.backend key =
          if key = snapshotKey then none else held ended.backend key) := by
  intro ended started
  have hk : IsKept ended := isKept_run_of_accepted hc
  constructor
  · intro hs
    -- the reader would refuse repeated identities, but a session never has any
    have hu : (Layout.leaves ended.layout).Nodup :=
      run_nodup (bootstrap_nodup backend tokens settings) cs
    have ho := opening_of_nesting hk hn later hp hu hs
    simp only [started, bootstrap_origin, bootstrap_layout, bootstrap_tokens, bootstrap_backend, ho]
    refine ⟨trivial, trivial, trivial, ?_⟩
    intro key
    exact congrFun (held_get snapshotKey ended.backend) key
  · intro hs
    have ho := opening_of_lt_nesting hk hn later hp hs
    simp only [started, bootstrap_origin, bootstrap_layout, bootstrap_backend, ho]
    exact ⟨rfl, rfl, held_after_recovered .notJson⟩

end

/-- A percentage that reads back, on a backend that starts empty. -/
theorem restart_after_replacing :
    let n : Node := .branch ⟨.column, some 62.5⟩ (.leaf ⟨"agentMap#a"⟩) (.leaf ⟨"\n"⟩)
    let ended := (bootstrap ({} : MemoryStore) ({} : ScriptedTokens) {}).run [.replaceTree (some n)]
    (bootstrap ended.backend ({} : ScriptedTokens) {}).origin = .restored ∧
      (bootstrap ended.backend ({} : ScriptedTokens) {}).layout = some n := by
  intro n ended
  have hu : (Layout.leaves (some n)).Nodup := by
    rw [Layout.leaves_some]
    decide
  have hn : ended.layout = some n := handle_replaceTree_layout _ hu
  have hc : ∃ e ∈ (bootstrap ({} : MemoryStore) ({} : ScriptedTokens) {}).steps
      [.replaceTree (some n)], e.accepted?.isSome := by
    refine ⟨_, List.mem_cons_self, ?_⟩
    rw [accepted?_replaceTree _ hu]
    rfl
  have hp : ∀ p ∈ n.percentages, NumberLiteral.ReadsBack p := by
    intro p hp
    have hp : p = 62.5 := List.mem_singleton.mp hp
    rw [hp]
    decide +kernel
  obtain ⟨ho, hl, -⟩ := (restart_of_session ({} : MemoryStore) ({} : ScriptedTokens)
    ({} : ScriptedTokens) {} {} [.replaceTree (some n)] hc hn hp).1 (by decide)
  exact ⟨ho, hl.trans hn⟩

end Store

/-! ## A layout that is not restored -/

namespace Node

/-- The identities of a tower, told apart by their lengths. -/
def towerId (k : Nat) : PaneId := ⟨String.ofList (List.replicate k 'x')⟩

/-- A pane that has been divided again and again, each time its first part. -/
def tower : Nat → Node
  | 0 => .leaf (towerId 0)
  | k + 1 => .branch {} (tower k) (.leaf (towerId (k + 1)))

theorem identities_tower (k : Nat) : (tower k).identities = (List.range (k + 1)).map towerId := by
  induction k with
  | zero => rfl
  | succ k ih =>
      rw [List.range_succ, List.map_append, ← ih]
      rfl

theorem tower_nodup (k : Nat) : (tower k).identities.Nodup := by
  have hi : Function.Injective towerId := by
    intro i j h
    have hl := congrArg (fun id : PaneId => id.text.toList.length) h
    simpa [towerId] using hl
  rw [identities_tower]
  exact List.nodup_range.map hi

theorem fresh_notMem_tower {σ : Type} [TokenSource σ] (tokens : σ) (k : Nat) :
    (PaneId.fresh "y" tokens).1 ∉ (tower k).identities := by
  rw [identities_tower]
  intro h
  obtain ⟨i, -, hi⟩ := List.mem_map.mp h
  have hl := congrArg (fun id : PaneId => id.text.toList) hi
  have hy : 'y' ∈ List.replicate i 'x' := by
    simp only [towerId, String.toList_ofList] at hl
    rw [hl]
    simp [PaneId.fresh, PaneId.join]
  exact absurd (List.eq_of_mem_replicate hy) (by decide)

theorem nesting_splitFirst_tower (new : PaneId) (k : Nat) :
    ((tower k).splitFirst new).nesting = k + 1 := by
  induction k with
  | zero => rfl
  | succ k ih =>
      rw [tower, splitFirst_branch, nesting, ih]
      rfl

theorem percentages_splitFirst_tower (new : PaneId) (k : Nat) :
    ((tower k).splitFirst new).percentages = [] := by
  induction k with
  | zero => rfl
  | succ k ih =>
      rw [tower, splitFirst_branch, percentages, ih]
      rfl

end Node

namespace Store
open AtomicBackend

/-- Installs a tower and divides it once more. -/
def towerCommands (k : Nat) : List Command := [.replaceTree (some (Node.tower k)), .addWidget "y"]

section
variable {σ β : Type} [TokenSource σ] [KeyValueStore β]

theorem run_towerCommands (start : Store σ β) (k : Nat) :
    (∃ e ∈ start.steps (towerCommands k), e.accepted?.isSome) ∧
      ∃ new, (start.run (towerCommands k)).layout = some ((Node.tower k).splitFirst new) := by
  have hu : (Layout.leaves (some (Node.tower k))).Nodup := by
    rw [Layout.leaves_some]
    exact Node.tower_nodup k
  refine ⟨⟨_, List.mem_cons_self, ?_⟩, ?_⟩
  · rw [start.accepted?_replaceTree hu]
    rfl
  -- the new identity begins with another letter than those of the tower
  · let installed := (start.handle (.replaceTree (some (Node.tower k)))).2
    have hd : installed.layout = some (Node.tower k) := start.handle_replaceTree_layout hu
    refine ⟨(PaneId.fresh "y" installed.tokens).1, ?_⟩
    change (installed.handle (.addWidget "y")).2.layout = _
    rw [handle_layout, installed.verdict_addWidget hd "y" (Node.fresh_notMem_tower _ k)
      (Node.tower_nodup k)]
    rfl

variable [AtomicBackend β] [ReliableBackend β]

theorem restart_of_towerCommands (start : Store σ β) {k : Nat} (h : 127 ≤ k) {τ : Type}
    [TokenSource τ] (later : τ) (settings : LayoutSettings) :
    let started := bootstrap (start.run (towerCommands k)).backend later settings
    started.origin = .recovered .notJson ∧ held started.backend snapshotKey = none := by
  intro started
  obtain ⟨hc, new, hn⟩ := run_towerCommands start k
  have hs := Node.nesting_splitFirst_tower new k
  have hp := Node.percentages_splitFirst_tower new k
  have hk : IsKept (start.run (towerCommands k)) := isKept_run_of_accepted hc
  have ho := opening_of_lt_nesting hk hn later (by simp [hp]) (by omega)
  simp only [started, bootstrap_origin, bootstrap_backend, ho]
  refine ⟨rfl, ?_⟩
  exact (held_after_recovered .notJson snapshotKey).trans (if_pos rfl)

end

/-- Two accepted changes without any percentage, after which the next session refuses and removes
what this one has written. -/
theorem restart_of_tower :
    let start := bootstrap ({} : MemoryStore) ({} : ScriptedTokens) {}
    let ended := start.run (towerCommands 127)
    (∃ e ∈ start.steps (towerCommands 127), e.accepted?.isSome) ∧
      (∃ n, ended.layout = some n ∧ n.percentages = []) ∧
      held ended.backend snapshotKey = some (Layout.encode ended.layout) ∧
      (bootstrap ended.backend ({} : ScriptedTokens) {}).origin = .recovered .notJson ∧
      held (bootstrap ended.backend ({} : ScriptedTokens) {}).backend snapshotKey = none := by
  intro start ended
  obtain ⟨hc, new, hn⟩ := run_towerCommands start 127
  have hp := Node.percentages_splitFirst_tower new 127
  have hk : IsKept ended := isKept_run_of_accepted hc
  exact ⟨hc, ⟨_, hn, hp⟩, hk, restart_of_towerCommands start (Nat.le_refl 127) _ _⟩

end Store
end Dashboard
