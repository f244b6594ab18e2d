import Dashboard.Store

/-!
# Sessions

A session is a store that has been started and then handles one command after the other. What a
command does to the layout, the page and the tokens is decided without the backend, and so is the
answer: `Command.verdict` is that decision. The backend only receives the text of what has been
decided. In the same way `Opening.ofText` is the decision with which a session starts.

All statements about a start rest on `Store.bootstrap_eq`, all about a command on `Store.handle_eq`;
no other proof looks into the operations of the store. What is reported is left open here.
-/
namespace Dashboard

/-! ## Decisions -/

/-- What a command comes to. -/
inductive Verdict (σ : Type) where
  /-- Identities repeat in the result, which is dropped. -/
  | refused (error : LayoutError) (tokens : σ)
  /-- There is a current layout, perhaps the same as before, and it is to be kept. -/
  | installed (layout : Layout) (tokens : σ)
  /-- Another page is shown. -/
  | turned (view : View)

namespace Verdict

variable {σ : Type}

def ofEdit (result : Layout × σ) : Verdict σ :=
  match Layout.checkUnique result.1 with
  | .error e => .refused e result.2
  | .ok () => .installed result.1 result.2

@[simp] theorem ofEdit_ne_turned (result : Layout × σ) (view : View) :
    ofEdit result ≠ .turned view := by
  unfold ofEdit
  split <;> simp

def answer : Verdict σ → Except LayoutError Unit
  | .refused e _ => .error e
  | .installed _ _ | .turned _ => .ok ()

/-- The layout that is to be kept, if there is one. -/
def layout? : Verdict σ → Option Layout
  | .installed l _ => some l
  | .refused _ _ | .turned _ => none

/-- The source after the tokens that have been drawn. -/
def tokensAfter (before : σ) : Verdict σ → σ
  | .refused _ tokens | .installed _ tokens => tokens
  | .turned _ => before

def viewAfter (before : View) : Verdict σ → View
  | .turned view => view
  | .refused _ _ | .installed _ _ => before

end Verdict

namespace Command

def verdict {σ : Type} [TokenSource σ] (l : Layout) (tokens : σ) (settings : LayoutSettings) :
    Command → Verdict σ
  | .addWidget widget => .ofEdit (Layout.insertFirst l widget tokens)
  | .addWidgetAt target widget direction =>
      .ofEdit (Layout.insertAt l target widget direction tokens)
  | .removeWidget id => .ofEdit (Layout.remove l id, tokens)
  | .loadPreset preset =>
      .installed (Layout.instantiate preset.template tokens).1
        (Layout.instantiate preset.template tokens).2
  | .loadDefaultLayout =>
      .installed (Layout.instantiate Preset.default.template tokens).1
        (Layout.instantiate Preset.default.template tokens).2
  | .resetToMinimal =>
      .installed (some (.leaf (PaneId.fresh settings.defaultWidget tokens).1))
        (PaneId.fresh settings.defaultWidget tokens).2
  | .replaceTree layout => .ofEdit (layout, tokens)
  | .setActiveView view => .turned view

/-- Whether a command is about the layout. Only turning to another page is not. -/
def editsLayout : Command → Bool
  | .setActiveView _ => false
  | _ => true

end Command

/-- With what a session starts. -/
structure Opening (σ : Type) where
  origin : Origin
  layout : Layout
  tokens : σ

namespace Opening

variable {σ : Type} [TokenSource σ]

/-- The default layout, for the given reason. -/
def byDefault (origin : Origin) (tokens : σ) : Opening σ where
  origin := origin
  layout := (Layout.instantiate Preset.default.template tokens).1
  tokens := (Layout.instantiate Preset.default.template tokens).2

def ofDecoded (tokens : σ) : Except LayoutError Layout → Opening σ
  | .ok l => ⟨.restored, l, tokens⟩
  | .error e => byDefault (.recovered e) tokens

/-- The start from the text that has been read, if any. -/
def ofText (text : Option String) (tokens : σ) : Opening σ :=
  match text.bind Store.significant? with
  | none => byDefault .defaulted tokens
  | some text => ofDecoded tokens (Snapshot.decode text)

theorem ofText_of_none {text : Option String} (h : text.bind Store.significant? = none)
    (tokens : σ) : ofText text tokens = byDefault .defaulted tokens := by
  unfold ofText
  rw [h]

theorem ofText_of_some {text : Option String} {kept : String}
    (h : text.bind Store.significant? = some kept) (tokens : σ) :
    ofText text tokens = ofDecoded tokens (Snapshot.decode kept) := by
  unfold ofText
  rw [h]

/-- The three ways to start, by what has been read. -/
theorem ofText_cases (text : Option String) (tokens : σ) :
    (text.bind Store.significant? = none ∧ ofText text tokens = byDefault .defaulted tokens) ∨
    (∃ kept l, text.bind Store.significant? = some kept ∧ Snapshot.decode kept = .ok l ∧
      ofText text tokens = ⟨.restored, l, tokens⟩) ∨
    ∃ kept e, text.bind Store.significant? = some kept ∧ Snapshot.decode kept = .error e ∧
      ofText text tokens = byDefault (.recovered e) tokens := by
  cases ht : text.bind Store.significant? with
  | none => exact .inl ⟨rfl, ofText_of_none ht tokens⟩
  | some kept =>
      have ho := ofText_of_some ht tokens
      cases hd : Snapshot.decode kept with
      | ok l =>
          rw [hd] at ho
          exact .inr (.inl ⟨kept, l, rfl, hd, ho⟩)
      | error e =>
          rw [hd] at ho
          exact .inr (.inr ⟨kept, e, rfl, hd, ho⟩)

/-- A session takes over the layout that has been kept, or starts from the default one. -/
theorem ofText_kept_or_default (text : Option String) (tokens : σ) :
    (∃ kept l, Snapshot.decode kept = .ok l ∧ ofText text tokens = ⟨.restored, l, tokens⟩) ∨
      ∃ origin, origin ≠ .restored ∧ ofText text tokens = byDefault origin tokens := by
  rcases ofText_cases text tokens with ⟨-, ho⟩ | ⟨kept, l, -, hd, ho⟩ | ⟨kept, e, -, -, ho⟩
  · exact .inr ⟨.defaulted, by simp, ho⟩
  · exact .inl ⟨kept, l, hd, ho⟩
  · exact .inr ⟨.recovered e, by simp, ho⟩

end Opening

namespace Store

section Verdict
variable {σ β : Type} [TokenSource σ]

def verdict (s : Store σ β) (c : Command) : Verdict σ := c.verdict s.layout s.tokens s.settings

theorem editsLayout_eq_false_iff (s : Store σ β) (c : Command) :
    c.editsLayout = false ↔ ∃ view, s.verdict c = .turned view := by
  cases c <;> simp [Command.editsLayout, verdict, Command.verdict]

end Verdict

/-! ## What the backend is asked for -/

section Backend
variable {σ β : Type} [KeyValueStore β]

/-- What a backend answers about the kept text; a failure counts as no text. -/
def textRead (backend : β) : Option String :=
  match (KeyValueStore.get snapshotKey backend).1 with
  | .ok text => text
  | .error _ => none

/-- The backend after a start: it has been read, and a refused text has been removed. -/
def backendAfterStart (origin : Origin) (backend : β) : β :=
  match origin with
  | .recovered _ => (KeyValueStore.remove snapshotKey (KeyValueStore.get snapshotKey backend).2).2
  | .restored | .defaulted => (KeyValueStore.get snapshotKey backend).2

theorem readSnapshot_eq (s : Store σ β) :
    ∃ log, s.readSnapshot =
      (textRead s.backend, { s with backend := (KeyValueStore.get snapshotKey s.backend).2, log }) := by
  unfold readSnapshot textRead
  rcases KeyValueStore.get snapshotKey s.backend with ⟨_ | text, backend⟩
  · exact ⟨_, rfl⟩
  · exact ⟨s.log, rfl⟩

theorem clearSnapshot_eq (s : Store σ β) :
    ∃ log, s.clearSnapshot =
      { s with backend := (KeyValueStore.remove snapshotKey s.backend).2, log } := by
  unfold clearSnapshot
  rcases KeyValueStore.remove snapshotKey s.backend with ⟨_ | _, backend⟩
  · exact ⟨_, rfl⟩
  · exact ⟨s.log, rfl⟩

theorem install_eq (s : Store σ β) (l : Layout) :
    ∃ log, s.install l =
      { s with
        layout := l
        backend := (KeyValueStore.set snapshotKey (Layout.encode l) s.backend).2
        log } := by
  unfold install persist report
  dsimp only
  rcases KeyValueStore.set snapshotKey (Layout.encode l) s.backend with ⟨_ | _, backend⟩
  · exact ⟨_, rfl⟩
  · exact ⟨_, rfl⟩

/-- The store that a verdict leaves, with the given reports. -/
def after (s : Store σ β) (v : Verdict σ) (log : List Event) : Store σ β where
  layout := v.layout?.getD s.layout
  view := v.viewAfter s.view
  tokens := v.tokensAfter s.tokens
  backend :=
    match v.layout? with
    | some l => (KeyValueStore.set snapshotKey (Layout.encode l) s.backend).2
    | none => s.backend
  settings := s.settings
  origin := s.origin
  log := log

theorem apply_eq (s : Store σ β) (edit : Layout → σ → Layout × σ) :
    ∃ log, s.apply edit =
      ((Verdict.ofEdit (edit s.layout s.tokens)).answer,
        s.after (Verdict.ofEdit (edit s.layout s.tokens)) log) := by
  unfold apply Verdict.ofEdit
  rcases edit s.layout s.tokens with ⟨l, tokens⟩
  dsimp only
  cases Layout.checkUnique l with
  | error e => exact ⟨_, rfl⟩
  | ok u =>
      obtain ⟨log, h⟩ := install_eq { s with tokens } l
      exact ⟨log, congrArg (Prod.mk _) h⟩

end Backend

variable {σ β : Type} [TokenSource σ] [KeyValueStore β]

/-! ## The start -/

/-- A session starts with what the text that has been read decides. -/
theorem bootstrap_eq (backend : β) (tokens : σ) (settings : LayoutSettings) :
    ∃ log, bootstrap backend tokens settings =
      { layout := (Opening.ofText (textRead backend) tokens).layout
        view := .initial
        tokens := (Opening.ofText (textRead backend) tokens).tokens
        backend := backendAfterStart (Opening.ofText (textRead backend) tokens).origin backend
        settings := settings
        origin := (Opening.ofText (textRead backend) tokens).origin
        log := log } := by
  obtain ⟨log, hr⟩ := readSnapshot_eq
    ({ layout := none, view := .initial, tokens, backend, settings, origin := .defaulted,
       log := [] } : Store σ β)
  unfold bootstrap restore Opening.ofText
  simp only [hr]
  cases (textRead backend).bind significant? with
  | none => exact ⟨_, rfl⟩
  | some text =>
      cases hd : Snapshot.decode text with
      | ok l => simp only [hd]; exact ⟨_, rfl⟩
      | error e =>
          obtain ⟨log, hc⟩ := clearSnapshot_eq
            (({ layout := none, view := .initial, tokens,
                backend := (KeyValueStore.get snapshotKey backend).2, settings,
                origin := .defaulted, log } : Store σ β).report (.snapshotRefused e))
          simp only [hd, hc]
          exact ⟨_, rfl⟩

@[simp] theorem bootstrap_layout (backend : β) (tokens : σ) (settings : LayoutSettings) :
    (bootstrap backend tokens settings).layout =
      (Opening.ofText (textRead backend) tokens).layout := by
  obtain ⟨_, h⟩ := bootstrap_eq backend tokens settings
  rw [h]

@[simp] theorem bootstrap_tokens (backend : β) (tokens : σ) (settings : LayoutSettings) :
    (bootstrap backend tokens settings).tokens =
      (Opening.ofText (textRead backend) tokens).tokens := by
  obtain ⟨_, h⟩ := bootstrap_eq backend tokens settings
  rw [h]

@[simp] theorem bootstrap_origin (backend : β) (tokens : σ) (settings : LayoutSettings) :
    (bootstrap backend tokens settings).origin =
      (Opening.ofText (textRead backend) tokens).origin := by
  obtain ⟨_, h⟩ := bootstrap_eq backend tokens settings
  rw [h]

@[simp] theorem bootstrap_backend (backend : β) (tokens : σ) (settings : LayoutSettings) :
    (bootstrap backend tokens settings).backend =
      backendAfterStart (Opening.ofText (textRead backend) tokens).origin backend := by
  obtain ⟨_, h⟩ := bootstrap_eq backend tokens settings
  rw [h]

/-! ## One command -/

theorem loadTemplate_eq (s : Store σ β) (template : Layout) :
    ∃ log, s.loadTemplate template =
      s.after (.installed (Layout.instantiate template s.tokens).1
        (Layout.instantiate template s.tokens).2) log :=
  install_eq { s with tokens := (Layout.instantiate template s.tokens).2 }
    (Layout.instantiate template s.tokens).1

/-- A command does what it comes to, and answers accordingly. -/
theorem handle_eq (s : Store σ β) (c : Command) :
    ∃ log, s.handle c = ((s.verdict c).answer, s.after (s.verdict c) log) := by
  -- edits go through the check; presets and the reset are installed as they are
  cases c with
  | addWidget widget => exact s.apply_eq fun l tokens => Layout.insertFirst l widget tokens
  | addWidgetAt target widget direction =>
      exact s.apply_eq fun l tokens => Layout.insertAt l target widget direction tokens
  | removeWidget id => exact s.apply_eq fun l tokens => (Layout.remove l id, tokens)
  | loadPreset preset =>
      obtain ⟨log, h⟩ := loadTemplate_eq (s.report (.loadingPreset preset)) preset.template
      exact ⟨log, congrArg (Prod.mk _) h⟩
  | loadDefaultLayout =>
      obtain ⟨log, h⟩ :=
        loadTemplate_eq (s.report (.loadingPreset .default)) Preset.default.template
      exact ⟨log, congrArg (Prod.mk _) h⟩
  | resetToMinimal =>
      obtain ⟨log, h⟩ := install_eq
        { s with tokens := (PaneId.fresh s.settings.defaultWidget s.tokens).2 }
        (some (.leaf (PaneId.fresh s.settings.defaultWidget s.tokens).1))
      exact ⟨log, congrArg (Prod.mk _) h⟩
  | replaceTree layout => exact s.apply_eq fun _ tokens => (layout, tokens)
  | setActiveView view => exact ⟨_, rfl⟩

@[simp] theorem handle_answer (s : Store σ β) (c : Command) :
    (s.handle c).1 = (s.verdict c).answer := by
  obtain ⟨_, h⟩ := s.handle_eq c
  rw [h]

@[simp] theorem handle_layout (s : Store σ β) (c : Command) :
    (s.handle c).2.layout = (s.verdict c).layout?.getD s.layout := by
  obtain ⟨_, h⟩ := s.handle_eq c
  rw [h]
  rfl

theorem handle_backend (s : Store σ β) (c : Command) :
    (s.handle c).2.backend =
      match (s.verdict c).layout? with
      | some l => (KeyValueStore.set snapshotKey (Layout.encode l) s.backend).2
      | none => s.backend := by
  obtain ⟨_, h⟩ := s.handle_eq c
  rw [h]
  rfl

/-! ## Runs -/

/-- The store after a sequence of commands. Refused commands count as handled. -/
def run (s : Store σ β) : List Command → Store σ β
  | [] => s
  | c :: cs => run (s.handle c).2 cs

/-- One command of a session, and the store that handles it. -/
structure Step (σ β : Type) where
  before : Store σ β
  command : Command

namespace Step

def after (e : Step σ β) : Store σ β := (e.before.handle e.command).2

def answer (e : Step σ β) : Except LayoutError Unit := (e.before.handle e.command).1

/-- The layout after an accepted change of the layout; it may be the one before. -/
def accepted? (e : Step σ β) : Option Layout :=
  match e.command.editsLayout, e.answer with
  | true, .ok () => some e.after.layout
  | _, _ => none

end Step

def steps (s : Store σ β) : List Command → List (Step σ β)
  | [] => []
  | c :: cs => ⟨s, c⟩ :: steps (s.handle c).2 cs

/-- What every command keeps, every sequence of commands keeps. -/
theorem run_induction {P : Store σ β → Prop} {s : Store σ β} (hs : P s)
    (step : ∀ s c, P s → P (s.handle c).2) (cs : List Command) : P (s.run cs) := by
  induction cs generalizing s with
  | nil => exact hs
  | cons c cs ih => exact ih (step s c hs)

/-- A change of the layout is accepted exactly when there is a layout to be kept. -/
theorem Step.accepted?_eq (e : Step σ β) : e.accepted? = (e.before.verdict e.command).layout? := by
  unfold accepted? answer after
  rw [handle_answer, handle_layout]
  cases hv : e.before.verdict e.command with
  | turned view =>
      rw [(e.before.editsLayout_eq_false_iff e.command).mpr ⟨view, hv⟩]
      rfl
  | refused error tokens => cases e.command.editsLayout <;> rfl
  | installed layout tokens =>
      -- what turns a page installs nothing, so this command is about the layout
      have hc : e.command.editsLayout ≠ false := by
        intro h
        obtain ⟨view, ht⟩ := (e.before.editsLayout_eq_false_iff e.command).mp h
        cases hv.symm.trans ht
      rw [Bool.not_eq_false _ |>.mp hc]
      rfl

end Store
end Dashboard
