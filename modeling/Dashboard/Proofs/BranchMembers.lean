import Dashboard.Proofs.DocumentParts
import Dashboard.Snapshot

/-!
# The members of a branch

A branch has members of four names, which may be read in any order, between members of other names
that do not count. What `Node.fieldsOfMembers?` does with one member is `BranchFields.take?`; the
statements about a whole list follow from it by induction. In the end every field has been read
from the member of its name, and only there. The other way round, a list without repeated keys is
read to its end if every member of a known name can be read on its own.
-/
namespace Dashboard

/-- A choice that is found by a name has that name. -/
theorem Named.name_of_ofName? {α : Type} [Named α] {s : String} {a : α} (h : ofName? s = some a) :
    name a = s :=
  of_decide_eq_true (List.find?_some (p := fun a : α => decide (name a = s)) h)

/-- The name of a member that belongs to a branch. -/
inductive BranchKey where
  | direction
  | first
  | second
  | percentage
deriving DecidableEq, Repr

instance : Named BranchKey where
  all := [.direction, .first, .second, .percentage]
  name
    | .direction => "direction"
    | .first => "first"
    | .second => "second"
    | .percentage => "splitPercentage"

theorem BranchKey.ofName?_eq_some_iff {name : String} {key : BranchKey} :
    Named.ofName? name = some key ↔ name = Named.name key := by
  constructor
  · intro h
    exact (Named.name_of_ofName? h).symm
  · rintro rfl
    cases key <;> decide

theorem BranchKey.name_injective {key other : BranchKey} (h : Named.name key = Named.name other) :
    key = other := by
  have hk := ofName?_eq_some_iff.mpr (rfl : Named.name key = Named.name key)
  have ho := ofName?_eq_some_iff.mpr h
  exact Option.some.inj (hk.symm.trans ho)

namespace BranchFields

/-- Whether the member of a name has been read. -/
def has (b : BranchFields) : BranchKey → Bool
  | .direction => b.direction.isSome
  | .first => b.first.isSome
  | .second => b.second.isSome
  | .percentage => b.percentage.isSome

/-- The field of a name holds what the document is read as. -/
def ReadFrom (b : BranchFields) (j : Json String) : BranchKey → Prop
  | .direction => ∃ d, Named.ofJson? j = some d ∧ b.direction = some d
  | .first => ∃ n, Node.ofJson? j = some n ∧ b.first = some n
  | .second => ∃ n, Node.ofJson? j = some n ∧ b.second = some n
  | .percentage => ∃ p, Node.percentageOfJson? j = some p ∧ b.percentage = some p

/-- Reads the member of a name, unless there has been one before. -/
def take? (b : BranchFields) (j : Json String) : BranchKey → Option BranchFields
  | .direction =>
      if b.direction.isSome then none
      else (Named.ofJson? j).map fun d => { b with direction := some d }
  | .first =>
      if b.first.isSome then none else (Node.ofJson? j).map fun n => { b with first := some n }
  | .second =>
      if b.second.isSome then none else (Node.ofJson? j).map fun n => { b with second := some n }
  | .percentage =>
      if b.percentage.isSome then none
      else (Node.percentageOfJson? j).map fun p => { b with percentage := some p }

theorem bind_ite_map {α β γ : Type} (given : Bool) (o : Option α) (f : α → β) (g : β → Option γ) :
    (if given then none else o.map f).bind g = if given then none else o.bind fun x => g (f x) := by
  cases given with
  | false => exact Option.bind_map
  | true => rfl

/-- What reading one member comes to. -/
structure Takes (b : BranchFields) (j : Json String) (key : BranchKey) (after : BranchFields) :
    Prop where
  absent : b.has key = false
  read : after.ReadFrom j key
  has_other : ∀ other ≠ key, after.has other = b.has other
  readFrom_other : ∀ other ≠ key, ∀ i, b.ReadFrom i other → after.ReadFrom i other

theorem takes_of_take? {b after : BranchFields} {j : Json String} {key : BranchKey}
    (h : b.take? j key = some after) : b.Takes j key after := by
  cases key with
  | _ =>
      rw [take?] at h
      split at h
      next => cases h
      next hb =>
        obtain ⟨x, hx, rfl⟩ := Option.map_eq_some_iff.mp h
        have hb := Bool.not_eq_true _ |>.mp hb
        refine ⟨hb, ⟨x, hx, rfl⟩, ?_, ?_⟩
        · intro other ho
          cases other with
          | _ => first | rfl | exact (ho rfl).elim
        · intro other ho i hi
          cases other with
          | _ => first | exact hi | exact (ho rfl).elim

theorem ReadFrom.has {b : BranchFields} {j : Json String} {key : BranchKey}
    (h : b.ReadFrom j key) : b.has key = true := by
  cases key with
  | _ =>
      obtain ⟨x, -, hx⟩ := h
      rw [BranchFields.has, hx]
      rfl

/-- A member that can be read is taken where its name is still absent. -/
theorem exists_take? {b target : BranchFields} {j : Json String} {key : BranchKey}
    (hb : b.has key = false) (h : target.ReadFrom j key) : ∃ after, b.take? j key = some after := by
  cases key with
  | _ =>
      obtain ⟨x, hx, -⟩ := h
      apply Option.isSome_iff_exists.mp
      simp only [has] at hb
      rw [take?, hb, hx]
      rfl

/-- What reading a list of members comes to. -/
structure Reads (b : BranchFields) (members : List (String × Json String))
    (after : BranchFields) : Prop where
  absent : ∀ key, Named.name key ∈ members.map Prod.fst → b.has key = false
  has_iff : ∀ key,
    after.has key = true ↔ b.has key = true ∨ Named.name key ∈ members.map Prod.fst
  read : ∀ key j, (Named.name key, j) ∈ members → after.ReadFrom j key
  kept : ∀ key j, b.ReadFrom j key → after.ReadFrom j key

variable {b between after : BranchFields} {members : List (String × Json String)}

theorem Reads.nil : Reads b [] b where
  absent _ h := (List.not_mem_nil h).elim
  has_iff _ := ⟨.inl, fun h => h.resolve_right List.not_mem_nil⟩
  read _ _ h := (List.not_mem_nil h).elim
  kept _ _ h := h

theorem Reads.cons_other (h : Reads b members after) {name : String}
    (hn : ∀ key : BranchKey, Named.name key ≠ name) (j : Json String) :
    Reads b ((name, j) :: members) after := by
  constructor
  · intro key hk
    exact h.absent key ((List.mem_cons.mp hk).resolve_left (hn key))
  · intro key
    rw [h.has_iff key, List.map_cons, List.mem_cons, or_iff_right (hn key)]
  · intro key i hi
    have hne : (Named.name key, i) ≠ (name, j) := fun he => hn key (congrArg Prod.fst he)
    exact h.read key i ((List.mem_cons.mp hi).resolve_left hne)
  · exact h.kept

theorem Reads.cons {key : BranchKey} {j : Json String} (t : b.Takes j key between)
    (h : Reads between members after) : Reads b ((Named.name key, j) :: members) after := by
  have hb : between.has key = true := t.read.has
  constructor
  · intro other ho
    rcases List.mem_cons.mp ho with ho | ho
    · rw [BranchKey.name_injective ho]
      exact t.absent
    · have hn := h.absent other ho
      by_cases he : other = key
      · rw [he, hb] at hn
        cases hn
      · rw [← t.has_other other he]
        exact hn
  · intro other
    rw [h.has_iff other, List.map_cons, List.mem_cons]
    by_cases he : other = key
    · rw [he, hb]
      simp
    · have hn : Named.name other ≠ Named.name key := fun hn => he (BranchKey.name_injective hn)
      rw [t.has_other other he, or_iff_right hn]
  · intro other i hi
    rcases List.mem_cons.mp hi with hi | hi
    · obtain ⟨hn, rfl⟩ := Prod.mk.inj hi
      rw [BranchKey.name_injective hn]
      exact h.kept key i t.read
    · exact h.read other i hi
  · intro other i hi
    have he : other ≠ key := by
      rintro rfl
      have hn := hi.has
      rw [t.absent] at hn
      cases hn
    exact h.kept other i (t.readFrom_other other he i hi)

end BranchFields

namespace Node
open BranchFields

/-- A member of a known name is taken; any other is passed over. -/
theorem fieldsOfMembers?_cons (b : BranchFields) (name : String) (j : Json String)
    (members : List (String × Json String)) :
    fieldsOfMembers? b ((name, j) :: members) =
      match (Named.ofName? name : Option BranchKey) with
      | none => fieldsOfMembers? b members
      | some key => (b.take? j key).bind (fieldsOfMembers? · members) := by
  cases hn : (Named.ofName? name : Option BranchKey) with
  | none =>
      have hne : ∀ key : BranchKey, name ≠ Named.name key := by
        rintro key he
        rw [BranchKey.ofName?_eq_some_iff.mpr he] at hn
        cases hn
      have hd : name ≠ "direction" := hne .direction
      have hf : name ≠ "first" := hne .first
      have hs : name ≠ "second" := hne .second
      have hp : name ≠ "splitPercentage" := hne .percentage
      rw [fieldsOfMembers?, if_neg hd, if_neg hf, if_neg hs, if_neg hp]
  | some key =>
      cases key with
      | direction =>
          have he : name = "direction" := BranchKey.ofName?_eq_some_iff.mp hn
          rw [he, fieldsOfMembers?, if_pos rfl]
          simp only [take?, bind_ite_map]
      | first =>
          have he : name = "first" := BranchKey.ofName?_eq_some_iff.mp hn
          rw [he, fieldsOfMembers?, if_neg (by decide), if_pos rfl]
          simp only [take?, bind_ite_map]
      | second =>
          have he : name = "second" := BranchKey.ofName?_eq_some_iff.mp hn
          rw [he, fieldsOfMembers?, if_neg (by decide), if_neg (by decide), if_pos rfl]
          simp only [take?, bind_ite_map]
      | percentage =>
          have he : name = "splitPercentage" := BranchKey.ofName?_eq_some_iff.mp hn
          rw [he, fieldsOfMembers?, if_neg (by decide), if_neg (by decide), if_neg (by decide),
            if_pos rfl]
          simp only [take?, bind_ite_map]

theorem reads_of_fieldsOfMembers? {b after : BranchFields} {members : List (String × Json String)}
    (h : fieldsOfMembers? b members = some after) : Reads b members after := by
  induction members generalizing b with
  | nil =>
      cases h
      exact .nil
  | cons m ms ih =>
      obtain ⟨name, j⟩ := m
      rw [fieldsOfMembers?_cons] at h
      cases hn : (Named.ofName? name : Option BranchKey) with
      | none =>
          rw [hn] at h
          apply (ih h).cons_other
          intro key hk
          rw [BranchKey.ofName?_eq_some_iff.mpr hk.symm] at hn
          cases hn
      | some key =>
          rw [hn] at h
          obtain ⟨between, ht, h⟩ := Option.bind_eq_some_iff.mp h
          rw [BranchKey.ofName?_eq_some_iff.mp hn]
          exact .cons (takes_of_take? ht) (ih h)

/-- Members without repeated keys are read to the end if those of known names can be read. -/
theorem exists_fieldsOfMembers? {b target : BranchFields} {members : List (String × Json String)}
    (hk : (members.map Prod.fst).Nodup)
    (hr : ∀ key j, (Named.name key, j) ∈ members → target.ReadFrom j key)
    (hb : ∀ key, Named.name key ∈ members.map Prod.fst → b.has key = false) :
    ∃ after, fieldsOfMembers? b members = some after := by
  induction members generalizing b with
  | nil => exact ⟨b, rfl⟩
  | cons m ms ih =>
      obtain ⟨name, j⟩ := m
      obtain ⟨hname, hms⟩ := List.nodup_cons.mp hk
      have hr' : ∀ key j, (Named.name key, j) ∈ ms → target.ReadFrom j key :=
        fun key i hi => hr key i (List.mem_cons_of_mem _ hi)
      have hb' : ∀ key, Named.name key ∈ ms.map Prod.fst → b.has key = false :=
        fun key hm => hb key (List.mem_cons_of_mem _ hm)
      rw [fieldsOfMembers?_cons]
      cases hn : (Named.ofName? name : Option BranchKey) with
      | none => exact ih hms hr' hb'
      | some key =>
          have he := BranchKey.ofName?_eq_some_iff.mp hn
          subst he
          obtain ⟨between, ht⟩ :=
            exists_take? (hb key List.mem_cons_self) (hr key j List.mem_cons_self)
          simp only [ht, Option.bind_some]
          apply ih hms hr'
          intro other ho
          -- the name that has just been taken does not occur again
          have hne : other ≠ key := by
            rintro rfl
            exact hname ho
          rw [(takes_of_take? ht).has_other other hne]
          exact hb' other ho

end Node
end Dashboard
