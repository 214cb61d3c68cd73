import Outline.Proofs.Dom.Attempt
import Outline.Proofs.Template.Passes

/-!
# Changes of the separator

A session may get another separator between templates, and the values that are offered may be any.
A value that is no single character other than white space is refused and changes nothing.  So the
separator is always the one accepted last, and compiling always has one that it can split at.

* `Session.afterAll`: the session after uses of its settings.
* `Session.settings_afterAll`: the settings after them.
* `Session.compiles_or_refuses`: what may happen to a template then.
-/

namespace Outline

/-! ### Values that are accepted -/

namespace Settings

variable {t : Text} {d : Data} {m : Mark}

theorem markOf_singleton (m : Mark) : markOf [m.char] = .ok m := by
  rw [markOf, dif_pos m.visible]

theorem markOf_eq_ok_iff : markOf t = .ok m ↔ t = [m.char] := by
  refine ⟨fun h => ?_, fun h => h ▸ markOf_singleton m⟩
  match t, h with
  | [c], h =>
    rw [markOf] at h
    split at h
    · rw [← Except.ok.inj h]
    · exact absurd h nofun

/-- **A text is a mark exactly when it is a single character other than white space.** -/
theorem readMark_text : readMark (.text t) = .ok m ↔ t = [m.char] := markOf_eq_ok_iff

theorem setSeparator_of_ok (h : readMark d = .ok m) (s : Settings) :
    s.setSeparator d = .ok { s with separator := m } := by
  rw [setSeparator, h]

theorem setSeparator_of_error {cause : Cause} (h : readMark d = .error cause) (s : Settings) :
    s.setSeparator d = .error ⟨some .separator, cause⟩ := by
  rw [setSeparator, h]

end Settings

namespace Session

/-! ### Uses of settings -/

/-- A use of the settings of a session. -/
inductive Use where
  | separate (value : Data)
  | compile (template : Text)
  | generate (template : Text) (container : Option Dom.Ref)

def Use.accepted? : Use → Option Mark
  | separate d => (Settings.readMark d).toOption
  | compile _ | generate _ _ => none

def after (s : Session) : Use → Session
  | .separate d =>
    match s.setSeparator d with
    | .ok later => later
    | .error _ => s
  | .compile _ => s
  | .generate t container =>
    { s with store := s.store.attempted s.settings s.registry t container }

def afterAll (s : Session) (us : List Use) : Session := us.foldl after s

variable {s : Session} {d : Data} {m : Mark}

theorem setSeparator_of_ok (h : Settings.readMark d = .ok m) (s : Session) :
    s.setSeparator d = .ok { s with settings := { s.settings with separator := m } } := by
  rw [setSeparator, Settings.setSeparator_of_ok h]
  rfl

theorem setSeparator_of_error {cause : Settings.Cause} (h : Settings.readMark d = .error cause)
    (s : Session) : s.setSeparator d = .error ⟨some .separator, cause⟩ := by
  rw [setSeparator, Settings.setSeparator_of_error h]
  rfl

/-- **A refused separator leaves the session as it is.** -/
theorem after_of_refused {r : Settings.Refusal} (h : s.setSeparator d = .error r) :
    s.after (.separate d) = s := by
  rw [after, h]

/-- **A use changes the separator or no setting at all.** -/
theorem settings_after (s : Session) (u : Use) :
    (s.after u).settings =
      { s.settings with separator := u.accepted?.getD s.settings.separator } := by
  cases u with
  | separate d =>
    cases hread : Settings.readMark d with
    | ok m => rw [after, setSeparator_of_ok hread, Use.accepted?, hread]; rfl
    | error cause => rw [after, setSeparator_of_error hread, Use.accepted?, hread]; rfl
  | compile | generate => rfl

/-- **The settings after uses** are the first ones with the separator that was accepted last. -/
theorem settings_afterAll (s : Session) (us : List Use) :
    (s.afterAll us).settings =
      { s.settings with
        separator := (us.filterMap Use.accepted?).getLastD s.settings.separator } := by
  induction us generalizing s with
  | nil => rfl
  | cons u us ih =>
    have hrest := ih (s.after u)
    rw [settings_after] at hrest
    rw [afterAll, List.foldl_cons, ← afterAll, hrest, List.filterMap_cons]
    cases u.accepted? with
    | none => rfl
    | some m => rw [List.getLastD_cons]; rfl

/-- **Whatever separators a session is offered, a template compiles or is refused for a line without
a tag.**  Between templates any values may be offered as separators, and templates may be generated
that fail.  At every time the marker and the separator are characters other than white space, and
the separator is the one accepted last; all other settings are those that the session began with.
A text is accepted when it is such a character, and a value that is refused changes nothing.  No
pass of compiling fails but for a line without a tag, although for other settings it might. -/
theorem compiles_or_refuses (s : Session) (us : List Use) :
    let later := s.afterAll us
    let marker := later.settings.marker.char
    let separator := later.settings.separator.char
    Text.isBlank marker = false ∧ Text.isBlank separator = false ∧
    later.settings = { s.settings with
      separator := (us.filterMap Use.accepted?).getLastD s.settings.separator } ∧
    (∀ t next, later.setSeparator (.text t) = .ok next ↔
      ∃ m : Mark, t = [m.char] ∧
        next = { later with settings := { later.settings with separator := m } }) ∧
    (∀ d r, later.setSeparator d = .error r → later.after (.separate d) = later) ∧
    ∀ t, Template.compileInPasses [marker] [separator] t =
      ((Template.compile later.settings t).1,
        (Template.compile later.settings t).2.mapError .refused) := by
  intro later marker separator
  refine ⟨later.settings.marker.visible, later.settings.separator.visible,
    settings_afterAll s us, fun t next => ?_, fun d r => after_of_refused,
    Template.compileInPasses_eq later.settings⟩
  cases hread : Settings.readMark (.text t) with
  | ok m =>
    obtain rfl := Settings.readMark_text.mp hread
    rw [setSeparator_of_ok hread]
    constructor
    · intro h
      exact ⟨m, rfl, (Except.ok.inj h).symm⟩
    · rintro ⟨m', hm, rfl⟩
      have hmark := hread.symm.trans (Settings.readMark_text.mpr hm)
      rw [Except.ok.inj hmark]
  | error cause =>
    rw [setSeparator_of_error hread]
    refine ⟨nofun, ?_⟩
    rintro ⟨m, ht, -⟩
    exact absurd (hread.symm.trans (Settings.readMark_text.mpr ht)) nofun

/-- Two characters are refused, and attributes are told apart by the separator accepted before. -/
theorem compiles_or_refuses_of_two_characters :
    let two : Data := .text [';', ';']
    let later := afterAll {} [.separate (.text [',']), .separate two, .compile ['a']]
    let d : Node := ⟨['a'], [], none, none, [⟨['b'], none⟩, ⟨['c', ';', 'd'], none⟩], [],
      List.cons_ne_nil _ _⟩
    later.setSeparator two = .error ⟨some .separator, .notMark⟩ ∧
      later.after (.separate two) = later ∧
      Template.compileInPasses ['>'] [','] ['a', '[', 'b', ',', 'c', ';', 'd', ']'] =
        ([.compiled 1], .ok [.node ⟨d, some 1⟩ []]) := by
  intro two later d
  obtain ⟨-, -, -, -, hrefused, hpasses⟩ :=
    compiles_or_refuses {} [.separate (.text [',']), .separate two, .compile ['a']]
  have htwo : later.setSeparator two = .error ⟨some .separator, .notMark⟩ := rfl
  have hsettings : later.settings = { separator := ⟨',', by decide⟩ } := rfl
  have hcompile : Template.compile { separator := ⟨',', by decide⟩ }
      ['a', '[', 'b', ',', 'c', ';', 'd', ']'] = ([.compiled 1], .ok [.node ⟨d, some 1⟩ []]) := rfl
  have hpass := hpasses ['a', '[', 'b', ',', 'c', ';', 'd', ']']
  rw [hsettings, hcompile] at hpass
  exact ⟨htwo, hrefused two _ htwo, hpass⟩

end Session

end Outline
