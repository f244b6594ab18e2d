import Dashboard.FileStore
import Mathlib.Tactic.Tauto

/-!
# The path of a file in a directory

The path of a directory and the name of a file are put together as texts. Looked up, the result has
the steps of the directory and then the one step to the file, whichever way the path of the
directory is spelled: empty, with slashes at its end, or without. Nothing is assumed of the
directory, and of the name only that it is one step.
-/
namespace Dashboard

namespace Path

/-! ## Segments -/

theorem segments_ne_nil (cs : List Char) : segments cs ≠ [] := by
  cases cs with
  | nil => exact List.cons_ne_nil _ _
  | cons c cs =>
      unfold segments
      split
      · exact List.cons_ne_nil _ _
      · split <;> exact List.cons_ne_nil _ _

/-- A slash separates the segments on its two sides. -/
theorem segments_append_slash (cs ds : List Char) :
    segments (cs ++ '/' :: ds) = segments cs ++ segments ds := by
  induction cs with
  | nil => simp [segments]
  | cons c cs ih =>
      rw [List.cons_append, segments, segments, ih]
      split
      · rfl
      · cases hs : segments cs with
        | nil => exact (segments_ne_nil cs hs).elim
        | cons s ss => rfl

theorem segments_of_notMem {cs : List Char} (h : '/' ∉ cs) : segments cs = [cs] := by
  induction cs with
  | nil => rfl
  | cons c cs ih =>
      rw [List.mem_cons, not_or] at h
      have hs := ih h.2
      rw [segments, if_neg (Ne.symm h.1), hs]

/-! ## One step -/

/-- A text that is one step of a path, to an entry of a directory. -/
structure IsName (s : String) : Prop where
  noSlash : '/' ∉ s.toList
  step : componentOf? s.toList = some (.name s)

section
variable {s : String} (h : IsName s)
include h

theorem IsName.toList_ne_nil : s.toList ≠ [] := by
  intro he
  have hs := h.step
  rw [he] at hs
  cases hs

theorem IsName.not_isAbsolute : isAbsolute ⟨s⟩ = false := by
  have hs : s.toList.head? ≠ some '/' := fun hd => h.noSlash (List.mem_of_mem_head? hd)
  simpa [isAbsolute] using hs

/-- The three ways in which a name is put behind a directory. -/
theorem IsName.toList_join (dir : Path) :
    (dir.text.toList = [] ∧ (dir.join s).text.toList = s.toList) ∨
    (∃ cs, dir.text.toList = cs ++ ['/'] ∧ (dir.join s).text.toList = cs ++ '/' :: s.toList) ∨
    (dir.text.toList ≠ [] ∧ (dir.join s).text.toList = dir.text.toList ++ '/' :: s.toList) := by
  unfold join
  rw [h.not_isAbsolute, if_neg Bool.false_ne_true]
  split
  next hl =>
    have hd := List.getLast?_eq_none_iff.mp hl
    exact .inl ⟨hd, by simp [hd]⟩
  next hl =>
    obtain ⟨cs, hd⟩ := List.getLast?_eq_some_iff.mp hl
    exact .inr (.inl ⟨cs, hd, by simp [hd]⟩)
  next c hl =>
    have hd : dir.text.toList ≠ [] := by
      intro hd
      rw [hd] at hl
      cases hl
    exact .inr (.inr ⟨hd, by simp⟩)

theorem IsName.components_join (dir : Path) :
    (dir.join s).components = dir.components ++ [.name s] := by
  have hs : (segments s.toList).filterMap componentOf? = [.name s] := by
    rw [segments_of_notMem h.noSlash]
    simp [h.step]
  unfold components
  rcases h.toList_join dir with ⟨hd, hj⟩ | ⟨cs, hd, hj⟩ | ⟨-, hj⟩
  · rw [hd, hj, hs]
    rfl
  · rw [hd, hj, segments_append_slash, segments_append_slash, List.filterMap_append, hs,
      List.filterMap_append]
    simp [segments, componentOf?]
  · rw [hj, segments_append_slash, List.filterMap_append, hs]

theorem IsName.isAbsolute_join (dir : Path) : (dir.join s).isAbsolute = dir.isAbsolute := by
  unfold isAbsolute
  rcases h.toList_join dir with ⟨hd, hj⟩ | ⟨cs, hd, hj⟩ | ⟨hd, hj⟩
  · rw [hd, hj]
    exact h.not_isAbsolute
  · rw [hd, hj]
    cases cs <;> rfl
  · obtain ⟨c, cs, hc⟩ := List.exists_cons_of_ne_nil hd
    rw [hj, hc]
    rfl

theorem IsName.exists_toList_join (dir : Path) :
    ∃ cs, (dir.join s).text.toList = cs ++ s.toList := by
  rcases h.toList_join dir with ⟨-, hj⟩ | ⟨cs, -, hj⟩ | ⟨-, hj⟩
  · exact ⟨[], hj⟩
  · exact ⟨cs ++ ['/'], by simp [hj]⟩
  · exact ⟨dir.text.toList ++ ['/'], by simp [hj]⟩

theorem IsName.not_endsInSlash_join (dir : Path) : (dir.join s).endsInSlash = false := by
  obtain ⟨cs, hj⟩ := h.exists_toList_join dir
  obtain hn | ⟨ds, c, hc⟩ := List.eq_nil_or_concat s.toList
  · exact (h.toList_ne_nil hn).elim
  rw [List.concat_eq_append] at hc
  have hns : c ≠ '/' := by
    rintro rfl
    apply h.noSlash
    rw [hc]
    exact List.mem_append_right ds (List.mem_singleton_self _)
  unfold endsInSlash
  rw [hj, hc, ← List.append_assoc, List.getLast?_concat]
  exact decide_eq_false fun he => hns (Option.some.inj he)

theorem IsName.not_isEmpty_join (dir : Path) : (dir.join s).text.isEmpty = false := by
  obtain ⟨cs, hj⟩ := h.exists_toList_join dir
  rw [Bool.eq_false_iff]
  intro he
  rw [String.isEmpty_iff.mp he] at hj
  exact h.toList_ne_nil (List.append_eq_nil_iff.mp hj.symm).2

/-- A character that is not in the name comes from the directory, unless it is the slash. -/
theorem IsName.notMem_join {dir : Path} {c : Char} (hc : c ≠ '/') (hs : c ∉ s.toList)
    (hd : c ∉ dir.text.toList) : c ∉ (dir.join s).text.toList := by
  rcases h.toList_join dir with ⟨-, hj⟩ | ⟨cs, hd', hj⟩ | ⟨-, hj⟩
  · rwa [hj]
  · rw [hd'] at hd
    rw [hj]
    simp_all
  · rw [hj]
    simp_all

end

theorem componentOf?_of_lt_length {cs : List Char} (h : 2 < cs.length) :
    componentOf? cs = some (.name (String.ofList cs)) := by
  unfold componentOf?
  split
  · cases h
  · exact absurd h (by decide)
  · exact absurd h (by decide)
  · rfl

end Path

/-! ## Keys -/

namespace FileStore

/-- A key that is kept in a file: not empty, and made of ASCII letters, digits, underscores and
hyphens only. -/
def IsPlain (key : String) : Prop :=
  key ≠ "" ∧ ∀ c ∈ key.toList,
    'a' ≤ c ∧ c ≤ 'z' ∨ 'A' ≤ c ∧ c ≤ 'Z' ∨ '0' ≤ c ∧ c ≤ '9' ∨ c = '_' ∨ c = '-'

theorem isKeyChar_iff (c : Char) :
    isKeyChar c = true ↔
      'a' ≤ c ∧ c ≤ 'z' ∨ 'A' ≤ c ∧ c ≤ 'Z' ∨ '0' ≤ c ∧ c ≤ '9' ∨ c = '_' ∨ c = '-' := by
  have hk : isKeyChar c =
      (((decide ('A' ≤ c ∧ c ≤ 'Z') || decide ('a' ≤ c) && decide (c ≤ 'z')) ||
        decide ('0' ≤ c) && decide (c ≤ '9')) || decide (c = '_') || decide (c = '-')) := rfl
  rw [hk]
  simp only [Bool.or_eq_true, Bool.and_eq_true, decide_eq_true_eq]
  tauto

theorem isValidKey_iff (key : String) : isValidKey key = true ↔ IsPlain key := by
  simp only [isValidKey, IsPlain, Bool.and_eq_true, Bool.not_eq_true', List.all_eq_true,
    isKeyChar_iff, List.isEmpty_eq_false_iff, ne_eq, String.toList_eq_nil_iff]

section
variable {key : String} (h : IsPlain key)
include h

theorem IsPlain.notMem {c : Char} (hc : isKeyChar c = false) : c ∉ key.toList := by
  intro hm
  rw [(isKeyChar_iff c).mpr (h.2 c hm)] at hc
  cases hc

theorem IsPlain.notMem_append {c : Char} (hc : isKeyChar c = false) (hs : c ∉ ".json".toList) :
    c ∉ (key ++ ".json").toList := by
  rw [String.toList_append, List.mem_append, not_or]
  exact ⟨h.notMem hc, hs⟩

/-- The file of such a key is one step away from the directory. -/
theorem IsPlain.isName : Path.IsName (key ++ ".json") where
  noSlash := h.notMem_append (by decide) (by decide)
  step := by
    have hl : 2 < (key ++ ".json").toList.length := by
      rw [String.toList_append, List.length_append]
      exact Nat.lt_add_left _ (by decide)
    rw [Path.componentOf?_of_lt_length hl, String.ofList_toList]

end
end FileStore
end Dashboard
