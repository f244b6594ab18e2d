import Dashboard.CommandLine
import Dashboard.Proofs.Outlines
import Dashboard.Proofs.ShortestDecimals

/-!
# What a drawing tells

A drawing tells the layout it was made of, up to what it does not show of a percentage beyond its
decimal text. That the labels are free does not matter: an identity may look like the label of a
branch, or like the marks in front of one. What tells a branch from a pane is the next line. The
lines of the parts begin with the margin of the branch, and no line that follows them does, up to
the end of the drawing.

Only an identity with a line feed in it can be mistaken for something else, so there must be none.

A finite percentage is told by its decimal text. So where all percentages are finite, a drawing
leaves nothing of the layout open.
-/
namespace Dashboard

/-! ## Layouts that look alike -/

namespace Split

/-- The same direction, and percentages that are written alike or both missing. -/
def Alike (s t : Split) : Prop :=
  s.direction = t.direction ∧ s.percentage.map Percentage.text = t.percentage.map Percentage.text

end Split

namespace Node

/-- The same tree with the same identities, divided alike. -/
inductive Alike : Node → Node → Prop
  | leaf (id : PaneId) : Alike (.leaf id) (.leaf id)
  | branch {split split' : Split} {first first' second second' : Node} :
      split.Alike split' → Alike first first' → Alike second second' →
      Alike (.branch split first second) (.branch split' first' second')

/-- No identity holds a line feed. -/
def FitsLines (n : Node) : Prop := ∀ id ∈ n.identities, '\n' ∉ id.text.toList

theorem fitsLines_leaf (id : PaneId) : (leaf id).FitsLines ↔ '\n' ∉ id.text.toList := by
  simp only [FitsLines, identities, List.mem_singleton, forall_eq]

theorem alike_refl (n : Node) : Alike n n := by
  induction n with
  | leaf id => exact .leaf id
  | branch split first second ih₁ ih₂ => exact .branch ⟨rfl, rfl⟩ ih₁ ih₂

theorem fitsLines_branch (split : Split) (first second : Node) :
    (branch split first second).FitsLines ↔ first.FitsLines ∧ second.FitsLines :=
  List.forall_mem_append

end Node

/-! ## Labels -/

theorem Digits.lineFeed_notMem_chars (ds : List Digit) : '\n' ∉ chars ds :=
  notMem_chars (by decide) ds

theorem Percentage.lineFeed_notMem_text (x : Float) : '\n' ∉ (text x).toList := by
  have hs (b : Bool) : '\n' ∉ (if b then "-" else "").toList := by cases b <;> decide
  have hp (ds : List Digit) : '\n' ∉ if ds.isEmpty then [] else '.' :: Digits.chars ds := by
    split
    · exact List.not_mem_nil
    · have h := Digits.lineFeed_notMem_chars ds
      simp [h]
  unfold text
  dsimp only
  split
  · decide
  · split
    · rw [String.toList_append, List.mem_append, not_or]
      exact ⟨hs _, by decide⟩
    · rw [String.toList_append, String.toList_ofList]
      simp only [List.mem_append, not_or]
      exact ⟨hs _, Digits.lineFeed_notMem_chars _, hp _⟩

namespace Split

theorem label_eq (s : Split) :
    s.label = Named.name s.direction ++
      ((s.percentage.map Percentage.text).elim "" fun text => " " ++ text ++ "%") := by
  unfold label
  cases s.percentage with
  | none => exact String.append_empty.symm
  | some p => simp only [Option.map_some, Option.elim_some, String.append_assoc]

theorem label_eq_iff {s t : Split} : s.label = t.label ↔ s.Alike t := by
  constructor
  · intro h
    have hl := congrArg String.toList h
    simp only [label_eq, String.toList_append] at hl
    unfold Alike
    revert hl
    generalize s.percentage.map Percentage.text = p
    generalize t.percentage.map Percentage.text = q
    cases s.direction <;> cases t.direction <;> cases p <;> cases q <;>
      simp [Named.name, String.toList_inj]
  · intro ⟨hd, hp⟩
    rw [label_eq, label_eq, hd, hp]

theorem lineFeed_notMem_label (s : Split) : '\n' ∉ s.label.toList := by
  have hd : '\n' ∉ (Named.name s.direction).toList := by cases s.direction <;> decide
  rw [label_eq, String.toList_append, List.mem_append, not_or]
  refine ⟨hd, ?_⟩
  cases s.percentage with
  | none => exact List.not_mem_nil
  | some p =>
      have hp := Percentage.lineFeed_notMem_text p
      simp [hp]

end Split

/-! ## Lines -/

/-- No line begins with the margin, up to the first of the lines: what stood under the margin has
come to its end. -/
def Ended (margin : String) (rest : List String) : Prop :=
  ∀ line ∈ rest.head?, ¬ margin.toList <+: line.toList

theorem Ended.deeper {margin : String} {rest : List String} (h : Ended margin rest)
    (further : String) : Ended (margin ++ further) rest := by
  intro line hl hp
  apply h line hl
  rw [String.toList_append] at hp
  exact (List.prefix_append _ _).trans hp

namespace Node

/-- What stands behind the marks of a node. -/
def label : Node → String
  | .leaf id => id.text
  | .branch split _ _ => split.label

/-- The lines of the parts of a node. -/
def partLines (margin : String) : Node → List String
  | .leaf _ => []
  | .branch _ first second => first.lines margin .first ++ second.lines margin .second

theorem lines_eq_cons (n : Node) (margin : String) (position : Position) :
    n.lines margin position =
      (margin ++ position.mark ++ " " ++ n.label) ::
        n.partLines (margin ++ position.continuation) := by
  cases n <;> rfl

/-- The parts of a branch go on under its margin. -/
theorem not_ended_partLines (split : Split) (first second : Node) (margin : String)
    (rest : List String) : ¬ Ended margin ((branch split first second).partLines margin ++ rest) := by
  intro h
  apply h (margin ++ Position.first.mark ++ " " ++ first.label)
  · rw [partLines, lines_eq_cons]
    rfl
  · simp only [String.toList_append, List.append_assoc]
    exact List.prefix_append _ _

/-- The first part of a branch ends where the second one begins. -/
theorem ended_lines_second (n : Node) (margin : String) (rest : List String) :
    Ended (margin ++ Position.first.continuation) (n.lines margin .second ++ rest) := by
  intro line hl
  have hf : Position.first.continuation.toList = [' ', '│', ' '] := by decide
  have hs : Position.second.mark.toList = [' ', '└', '─'] := by decide
  rw [lines_eq_cons, List.cons_append, List.head?_cons, Option.mem_some_iff] at hl
  rw [← hl]
  simp only [String.toList_append, List.append_assoc, List.prefix_append_right_inj, hf, hs]
  simp [List.cons_prefix_cons]

/-- Where the lines of two nodes begin what is read, and both come to their end, the nodes look
alike and what follows is the same. -/
theorem alike_of_lines_append {a b : Node} {margin : String} {position : Position}
    {rest rest' : List String}
    (h : a.lines margin position ++ rest = b.lines margin position ++ rest')
    (hr : Ended (margin ++ position.continuation) rest)
    (hr' : Ended (margin ++ position.continuation) rest') : Alike a b ∧ rest = rest' := by
  induction a generalizing b margin position rest rest' with
  | leaf id =>
      rw [lines_eq_cons, lines_eq_cons b, List.cons_append, List.cons_append] at h
      obtain ⟨hl, ht⟩ := List.cons.inj h
      cases b with
      | leaf other =>
          have hi : id.text = other.text := String.append_right_inj _ |>.mp hl
          rw [PaneId.text_injective hi]
          exact ⟨.leaf other, ht⟩
      | branch split first second =>
          have hn := not_ended_partLines split first second (margin ++ position.continuation) rest'
          rw [← ht] at hn
          exact (hn hr).elim
  | branch split first second ih₁ ih₂ =>
      rw [lines_eq_cons, lines_eq_cons b, List.cons_append, List.cons_append] at h
      obtain ⟨hl, ht⟩ := List.cons.inj h
      cases b with
      | leaf other =>
          have hn := not_ended_partLines split first second (margin ++ position.continuation) rest
          rw [ht] at hn
          exact (hn hr').elim
      | branch split' first' second' =>
          have hs : split.Alike split' := Split.label_eq_iff.mp (String.append_right_inj _ |>.mp hl)
          simp only [partLines, List.append_assoc] at ht
          obtain ⟨hf, ht⟩ := ih₁ ht (ended_lines_second _ _ _) (ended_lines_second _ _ _)
          obtain ⟨hg, ht⟩ := ih₂ ht (hr.deeper _) (hr'.deeper _)
          exact ⟨.branch hs hf hg, ht⟩

theorem lines_of_alike {a b : Node} (h : Alike a b) (margin : String) (position : Position) :
    a.lines margin position = b.lines margin position := by
  induction h generalizing margin position with
  | leaf id => rfl
  | branch hs _ _ ih₁ ih₂ => rw [lines, lines, Split.label_eq_iff.mpr hs, ih₁, ih₂]

theorem alike_of_lines {a b : Node} (h : a.lines "" .root = b.lines "" .root) : Alike a b := by
  have he : Ended ("" ++ Position.root.continuation) [] := by
    intro line hl
    cases hl
  have ha : a.lines "" .root ++ [] = b.lines "" .root ++ [] := congrArg (· ++ []) h
  exact (alike_of_lines_append ha he he).1

/-- A node is drawn with one line for each pane, and one for each branch, of which there is one
less. -/
theorem length_lines (n : Node) (margin : String) (position : Position) :
    (n.lines margin position).length + 1 = 2 * n.identities.length := by
  induction n generalizing margin position with
  | leaf id => rfl
  | branch split first second ih₁ ih₂ =>
      have h₁ := ih₁ (margin ++ position.continuation) .first
      have h₂ := ih₂ (margin ++ position.continuation) .second
      rw [lines, identities, List.length_cons, List.length_append, List.length_append]
      omega

theorem FitsLines.lineFeed_notMem_label {n : Node} (h : n.FitsLines) :
    '\n' ∉ n.label.toList := by
  cases n with
  | leaf id => exact (fitsLines_leaf id).mp h
  | branch split first second => exact split.lineFeed_notMem_label

theorem FitsLines.lineFeed_notMem_lines {n : Node} (h : n.FitsLines) {margin : String}
    (hm : '\n' ∉ margin.toList) (position : Position) :
    ∀ line ∈ n.lines margin position, '\n' ∉ line.toList := by
  induction n generalizing margin position with
  | leaf id =>
      have hp : '\n' ∉ position.mark.toList := by cases position <;> decide
      have hl := h.lineFeed_notMem_label
      intro line hmem
      rw [lines_eq_cons, partLines, List.mem_singleton] at hmem
      simp [hmem, hm, hp, hl]
  | branch split first second ih₁ ih₂ =>
      have hp : '\n' ∉ position.mark.toList := by cases position <;> decide
      have hc : '\n' ∉ position.continuation.toList := by cases position <;> decide
      have hl := h.lineFeed_notMem_label
      have hmc : '\n' ∉ (margin ++ position.continuation).toList := by simp [hm, hc]
      obtain ⟨hf, hs⟩ := (fitsLines_branch split first second).mp h
      intro line hmem
      rw [lines_eq_cons, partLines, List.mem_cons, List.mem_append] at hmem
      rcases hmem with hmem | hmem | hmem
      · simp [hmem, hm, hp, hl]
      · exact ih₁ hf hmc .first line hmem
      · exact ih₂ hs hmc .second line hmem

end Node

/-! ## Texts made of lines -/

/-- Up to its first separator a text is known, and so is what stands behind. -/
theorem separator_append_inj {α : Type} {c : α} {xs ys as bs : List α} (hx : c ∉ xs) (hy : c ∉ ys)
    (h : xs ++ c :: as = ys ++ c :: bs) : xs = ys ∧ as = bs := by
  have hr := congrArg List.reverse h
  simp only [List.reverse_append, List.reverse_cons, List.append_assoc,
    List.singleton_append] at hr
  rw [← List.mem_reverse] at hx hy
  obtain ⟨hb, hf⟩ := append_separator_inj hx hy hr
  exact ⟨List.reverse_inj.mp hf, List.reverse_inj.mp hb⟩

/-- The characters of lines that are each ended by a line feed. -/
theorem toList_join_lines (lines : List String) :
    (String.join (lines.map (· ++ "\n"))).toList =
      lines.flatMap fun line => line.toList ++ ['\n'] := by
  rw [String.toList_join, List.flatMap_map]
  simp only [String.toList_append]
  rfl

/-- Lines that hold no line feed are read back from the text. -/
theorem eq_of_join_lines {lines lines' : List String} (hl : ∀ line ∈ lines, '\n' ∉ line.toList)
    (hl' : ∀ line ∈ lines', '\n' ∉ line.toList)
    (h : String.join (lines.map (· ++ "\n")) = String.join (lines'.map (· ++ "\n"))) :
    lines = lines' := by
  have ht := congrArg String.toList h
  rw [toList_join_lines, toList_join_lines] at ht
  clear h
  induction lines generalizing lines' with
  | nil =>
      cases lines' with
      | nil => rfl
      | cons line' lines' => simp at ht
  | cons line lines ih =>
      cases lines' with
      | nil => simp at ht
      | cons line' lines' =>
          rw [List.forall_mem_cons] at hl hl'
          simp only [List.flatMap_cons, List.append_assoc, List.singleton_append] at ht
          obtain ⟨hline, hrest⟩ := separator_append_inj hl.1 hl'.1 ht
          rw [String.toList_inj.mp hline, ih hl.2 hl'.2 hrest]

theorem count_lineFeed_join_lines {lines : List String}
    (hl : ∀ line ∈ lines, '\n' ∉ line.toList) :
    (String.join (lines.map (· ++ "\n"))).toList.count '\n' = lines.length := by
  rw [toList_join_lines]
  induction lines with
  | nil => rfl
  | cons line lines ih =>
      rw [List.forall_mem_cons] at hl
      rw [List.flatMap_cons, List.count_append, List.count_append, ih hl.2,
        List.count_eq_zero_of_not_mem hl.1, List.count_singleton_self, List.length_cons]
      omega

/-! ## Drawings -/

namespace Node

/-- The drawings of two nodes are the same exactly when the nodes look alike. -/
theorem draw_eq_iff {a b : Node} (ha : a.FitsLines) (hb : b.FitsLines) :
    a.draw = b.draw ↔ Alike a b := by
  have hroot : '\n' ∉ "".toList := by decide
  constructor
  · intro h
    apply alike_of_lines
    exact eq_of_join_lines (ha.lineFeed_notMem_lines hroot .root)
      (hb.lineFeed_notMem_lines hroot .root) h
  · intro h
    rw [draw, draw, lines_of_alike h]

/-- A drawing begins with the space before the first label, unlike what is printed for no layout. -/
theorem draw_ne_emptyText (n : Node) : n.draw ≠ CommandLine.layoutText none := by
  intro h
  have hl := congrArg String.toList h
  rw [draw, toList_join_lines, lines_eq_cons, List.flatMap_cons] at hl
  simp [CommandLine.layoutText, Position.mark] at hl

theorem count_lineFeed_draw {n : Node} (h : n.FitsLines) :
    n.draw.toList.count '\n' = (n.lines "" .root).length := by
  have hroot : '\n' ∉ "".toList := by decide
  exact count_lineFeed_join_lines (h.lineFeed_notMem_lines hroot .root)

/-- Where no identity holds a line feed, two nodes are drawn alike exactly when they are the same
tree with the same identities, the same directions, and percentages that are missing on both sides
or have the same decimal text. No node is drawn like the empty layout, and a drawing has one line
less than twice the number of its panes. -/
theorem drawing_of_node (a b : Node) (ha : a.FitsLines) (hb : b.FitsLines) :
    (a.draw = b.draw ↔ Alike a b) ∧
    CommandLine.layoutText (some a) ≠ CommandLine.layoutText none ∧
    (a.lines "" .root).length = 2 * a.paneCount - 1 ∧
    a.draw.toList.count '\n' = 2 * a.paneCount - 1 := by
  have hl : (a.lines "" .root).length = 2 * a.paneCount - 1 := by
    have h := a.length_lines "" .root
    rw [paneCount, leaves_eq_identities]
    omega
  exact ⟨draw_eq_iff ha hb, a.draw_ne_emptyText, hl, (count_lineFeed_draw ha).trans hl⟩

/-- A row whose panes are called like a branch and like a line of a drawing. -/
def imitation : Node :=
  .branch ⟨.row, none⟩ (.leaf ⟨"row 70%"⟩) (.leaf ⟨"log │  ├─ map"⟩)

/-- A row whose first part is a branch. -/
def genuine : Node :=
  .branch ⟨.row, none⟩ (.branch ⟨.row, some 70.0⟩ (.leaf ⟨"map"⟩) (.leaf ⟨"radar"⟩)) (.leaf ⟨"log"⟩)

/-- What the panes are called does not make one of the drawings look like the other. -/
theorem drawing_of_imitation :
    imitation.FitsLines ∧ genuine.FitsLines ∧ imitation.draw ≠ genuine.draw ∧
      imitation.draw.toList.count '\n' = 3 := by
  have hi : imitation.FitsLines := by
    simp only [imitation, fitsLines_branch, fitsLines_leaf]
    decide
  have hg : genuine.FitsLines := by
    simp only [genuine, fitsLines_branch, fitsLines_leaf]
    decide
  obtain ⟨hd, -, -, hc⟩ := drawing_of_node imitation genuine hi hg
  refine ⟨hi, hg, ?_, ?_⟩
  · intro he
    cases hd.mp he with
    | branch _ hf _ => cases hf
  · rw [hc, paneCount, leaves_eq_identities]
    rfl

/-! ## Finite percentages -/

/-- All percentages are finite. -/
def FinitePercentages (n : Node) : Prop := ∀ p ∈ n.percentages, p.isFinite = true

theorem finitePercentages_branch (split : Split) (first second : Node) :
    (branch split first second).FinitePercentages ↔
      (∀ p ∈ split.percentage, p.isFinite = true) ∧
        first.FinitePercentages ∧ second.FinitePercentages := by
  unfold FinitePercentages
  rw [percentages, List.forall_mem_append, List.forall_mem_append, and_assoc]
  simp only [Option.mem_toList, Option.mem_def]

end Node

theorem Split.eq_of_alike {s t : Split} (h : s.Alike t)
    (hs : ∀ p ∈ s.percentage, p.isFinite = true) (ht : ∀ p ∈ t.percentage, p.isFinite = true) :
    s = t := by
  obtain ⟨direction, p⟩ := s
  obtain ⟨direction', q⟩ := t
  obtain ⟨hd, hp⟩ := h
  dsimp only at hd hp hs ht
  cases p with
  | none =>
      cases q with
      | none => rw [hd]
      | some q => cases hp
  | some p =>
      cases q with
      | none => cases hp
      | some q =>
          have hpq := (Percentage.text_inj (hs p rfl) (ht q rfl)).mp (Option.some.inj hp)
          rw [hd, hpq]

namespace Node

theorem alike_iff_eq {a b : Node} (ha : a.FinitePercentages) (hb : b.FinitePercentages) :
    Alike a b ↔ a = b := by
  constructor
  · intro h
    induction h with
    | leaf id => rfl
    | branch hs _ _ ih₁ ih₂ =>
        rw [finitePercentages_branch] at ha hb
        rw [Split.eq_of_alike hs ha.1 hb.1, ih₁ ha.2.1 hb.2.1, ih₂ ha.2.2 hb.2.2]
  · rintro rfl
    exact alike_refl a

/-- Nodes that differ have different drawings. -/
theorem draw_inj {a b : Node} (ha : a.FitsLines) (hb : b.FitsLines) (ha' : a.FinitePercentages)
    (hb' : b.FinitePercentages) : a.draw = b.draw ↔ a = b :=
  (draw_eq_iff ha hb).trans (alike_iff_eq ha' hb')

end Node
end Dashboard
