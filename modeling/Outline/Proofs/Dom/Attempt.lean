import Outline.Session
import Outline.Proofs.Dom.Mirror
import Outline.Proofs.Dom.Run

/-!
# Generating is all or nothing

A template is compiled as a whole before anything is asked of a renderer.  So a template that is
refused leaves no trace, and one that is not touches nothing but the children of its container.

* `Generation.attempt`: what generating asks of a renderer, also when it fails.
* `Session.attempt_atomic`: what is left of a session in which a template is generated.
-/

namespace Outline

namespace Dom

open Building

variable {ε : Type} {m : Means ε} {settings : Settings} {registry : Registry} {t : Text}
  {f : Forest}

inductive Generation.Call where
  | step (step : Step)
  | mount (roots : List Nat)
deriving Repr

/-- What generating asks of a renderer, and the roots or why there are none. -/
structure Generation.Attempt where
  calls : List Call
  result : Except Refusal (List Nat)

/-- **An attempt to generate a template.**  It is compiled, built and mounted, as far as that
goes. -/
def Generation.attempt (settings : Settings) (registry : Registry) (template : Text) : Attempt :=
  match (Template.compile settings template).2 with
  | .error r => ⟨[], .error (.template r)⟩
  | .ok f =>
    let m := Means.of settings registry
    let roots := (stepsFrom m 0 f).2
    match (run m f).fault with
    | some o => ⟨(run m f).steps.map .step, .error (.content o)⟩
    | none => ⟨(run m f).steps.map .step ++ [.mount roots], .ok roots⟩

namespace Store

def serve (base container : Ref) (s : Store) : Generation.Call → Store
  | .step step => s.perform base step
  | .mount roots => s.mount container (roots.map (base + ·))

def after (s : Store) (container : Ref) (calls : List Generation.Call) : Store :=
  calls.foldl (serve s.next container) s

theorem after_steps (s : Store) (container : Ref) (steps : List Step) :
    s.after container (steps.map .step) = s.performAll steps := by
  rw [after, List.foldl_map]
  rfl

theorem after_steps_mount (s : Store) (container : Ref) (steps : List Step) (roots : List Nat) :
    s.after container (steps.map .step ++ [.mount roots]) =
      (s.performAll steps).mount container (roots.map (s.next + ·)) := by
  rw [after, List.foldl_append, ← after, after_steps]
  rfl

/-- **Generating a template is to attempt it**, and to look at the store afterwards. -/
theorem generate_eq_attempt (s : Store) (settings : Settings) (registry : Registry) (t : Text)
    (c : Ref) :
    (s.generate settings registry t (some c)).2 =
      (Generation.attempt settings registry t).result.map fun roots =>
        (s.after c (Generation.attempt settings registry t).calls,
          ⟨c, roots.map (s.next + ·)⟩) := by
  rw [generate_eq, Generation.attempt]
  cases (Template.compile settings t).2 with
  | error r => rfl
  | ok f =>
    let m := Means.of settings registry
    have hbuild : s.build m f = (run m f).outcome.map fun _ =>
        (s.performAll (run m f).steps, (stepsFrom m 0 f).2.map (s.next + ·)) := by
      rw [build, steps_eq_run]
      cases (run m f).outcome <;> rfl
    simp only [Except.mapError, Except.bind, m] at hbuild ⊢
    rw [hbuild, Run.outcome]
    cases (run (Means.of settings registry) f).fault with
    | some o => rfl
    | none =>
      simp only [Except.map, after_steps_mount]

theorem generate_withContainer (s : Store) (settings : Settings) (registry : Registry) (t : Text)
    (container : Option Ref) :
    (s.generate settings registry t container).2 =
      ((s.withContainer settings container).1.generate settings registry t
        (some (s.withContainer settings container).2)).2 := by
  cases container with
  | some r => rfl
  | none =>
    rw [generate, generate]
    rcases Template.compile settings t with ⟨notices, r | f⟩ <;> rfl

/-- The store after an attempt to generate a template, also after one that fails.  A container that
is not given is made before the template is compiled. -/
def attempted (s : Store) (settings : Settings) (registry : Registry) (template : Text)
    (container : Option Ref) : Store :=
  let p := s.withContainer settings container
  p.1.after p.2 (Generation.attempt settings registry template).calls

theorem generate_eq_attempted (s : Store) (settings : Settings) (registry : Registry) (t : Text)
    (container : Option Ref) :
    (s.generate settings registry t container).2 =
      (Generation.attempt settings registry t).result.map fun roots =>
        (s.attempted settings registry t container,
          ⟨(s.withContainer settings container).2,
            roots.map ((s.withContainer settings container).1.next + ·)⟩) := by
  rw [generate_withContainer, generate_eq_attempt]
  rfl

/-! ### Stores after calls -/

/-- **What is left when a forest is put into a container**: the container has the roots behind its
other children, and all else that was there is as it was. -/
structure MountedIn (m : Building.Means ε) (s s' : Store) (c : Ref) (f : Forest)
    (roots : List Ref) : Prop where
  container : s'.get c = { s.get c with children := (s.get c).children ++ roots.map .element }
  parents : ∀ r ∈ roots, (s'.get r).parent = some c
  others : ∀ r < s.next, r ≠ c → s'.get r = s.get r
  /-- The roots are those of the forest in order. -/
  mirrored : ∃ hs, Tree.AlignedAll (Mirrors m s') (some c) f hs ∧ roots = hs.map Tree.label ∧
    Tree.walkAll hs = List.range' s.next (Tree.walkAll f).length

theorem mountedIn_stepsFrom {s : Store} {c : Ref} (hc : c < s.next) (m : Building.Means ε)
    (f : Forest) :
    MountedIn m s ((s.performAll (stepsFrom m 0 f).1).mount c
      ((stepsFrom m 0 f).2.map (s.next + ·))) c f ((stepsFrom m 0 f).2.map (s.next + ·)) := by
  let rs := (handlesAll s.next f).map Tree.label
  have hstore : (s.performAll (stepsFrom m 0 f).1).mount c rs =
      ⟨adopt s.elements c rs ++ elementsAll m (some c) s.next f⟩ := by
    rw [performAll_stepsFrom]
    exact mount_elements rfl hc f
  have hlen : (adopt s.elements c rs).length = s.next := length_adopt s.elements c rs
  have haligned := alignedAll_elements m (some c) s.next (adopt s.elements c rs) [] hlen f
  rw [List.append_nil] at haligned
  rw [roots_stepsFrom, hstore]
  refine ⟨?_, ?_, ?_, _, haligned, rfl, ?_⟩
  · rw [get_left (hlen.symm ▸ hc)]
    exact get_update_self hc (addChildren rs)
  · intro r hr
    obtain ⟨u, hu, rfl⟩ := List.mem_map.mp hr
    obtain ⟨i, below, hmirror⟩ := haligned.of_mem hu
    rw [hmirror, element]
  · intro r hr hne
    rw [get_left (hlen.symm ▸ hr)]
    exact get_update_of_ne (Ne.symm hne) s _
  · rw [walkAll_handlesAll, countAll_eq_length]

end Store

/-! ### Attempts -/

namespace Generation

/-- **What an attempt can come to.**  The template is refused and nothing is done, or its content is
refused and nothing is mounted, or all steps are made and the roots are mounted. -/
theorem attempt_cases (settings : Settings) (registry : Registry) (t : Text) :
    (∃ r, attempt settings registry t = ⟨[], .error (.template r)⟩) ∨
    (∃ o steps, attempt settings registry t = ⟨List.map .step steps, .error (.content o)⟩) ∨
    ∃ f, (Template.compile settings t).2 = .ok f ∧
      let p := stepsFrom (Means.of settings registry) 0 f
      attempt settings registry t = ⟨p.1.map .step ++ [.mount p.2], .ok p.2⟩ := by
  rw [attempt]
  cases (Template.compile settings t).2 with
  | error r => exact .inl ⟨r, rfl⟩
  | ok f =>
    cases hfault : (run (Means.of settings registry) f).fault with
    | some o =>
      refine .inr (.inl ⟨o, (run (Means.of settings registry) f).steps, ?_⟩)
      simp only [hfault]
    | none =>
      have hall := (run_begins (Means.of settings registry) f).all hfault
      refine .inr (.inr ⟨f, rfl, ?_⟩)
      simp only [hfault, hall]

/-- When content is refused, the first of the steps are made. -/
theorem attempt_of_content {o : Reference.Overlong}
    (h : (attempt settings registry t).result = .error (.content o)) :
    ∃ f steps, steps <+: (stepsFrom (Means.of settings registry) 0 f).1 ∧
      (attempt settings registry t).calls = steps.map .step := by
  rw [attempt] at h ⊢
  cases hcompile : (Template.compile settings t).2 with
  | error r =>
    rw [hcompile] at h
    exact absurd h nofun
  | ok f =>
    simp only [hcompile] at h ⊢
    refine ⟨f, (run (Means.of settings registry) f).steps, (run_begins _ f).first, ?_⟩
    cases hfault : (run (Means.of settings registry) f).fault with
    | some o => rfl
    | none =>
      rw [hfault] at h
      exact absurd h nofun

end Generation

end Dom

namespace Session

open Dom Dom.Building

/-- The session after an attempt to generate a template into a container. -/
def attempted (s : Session) (template : Text) (container : Ref) : Session :=
  { s with
    store := s.store.after container
      (Generation.attempt s.settings s.registry template).calls }

/-- **Generating is all or nothing.**  A refused template asks nothing of a renderer, and the
session is as it was.  When the content is refused, all elements are as they were.  Otherwise the
roots are mounted in the container, and nothing else changes. -/
theorem attempt_atomic (s : Session) (template : Text) {c : Ref} (hc : c < s.store.next) :
    let a := Generation.attempt s.settings s.registry template
    let later := s.attempted template c
    (s.generate template (some c)).2 =
      a.result.map (fun roots => (later, ⟨c, roots.map (s.store.next + ·)⟩)) ∧
    (∀ r, a.result = .error (.template r) → a.calls = [] ∧ later = s) ∧
    (∀ o, a.result = .error (.content o) → ∀ r < s.store.next, later.store.get r = s.store.get r) ∧
    ∀ roots, a.result = .ok roots →
      later.settings = s.settings ∧ later.registry = s.registry ∧
      ∃ f, (Template.compile s.settings template).2 = .ok f ∧
        Store.MountedIn (Means.of s.settings s.registry) s.store later.store c f
          (roots.map (s.store.next + ·)) := by
  intro a later
  have hlater : later = { s with store := s.store.after c a.calls } := rfl
  constructor
  · have hgenerate := Store.generate_eq_attempt s.store s.settings s.registry template c
    show (s.store.generate s.settings s.registry template (some c)).2.map _ = _
    rw [hgenerate]
    show (Except.map _ a.result).map _ = Except.map _ a.result
    cases a.result <;> rfl
  · have hcases := Generation.attempt_cases s.settings s.registry template
    have ha : Generation.attempt s.settings s.registry template = a := rfl
    rw [ha] at hcases
    -- each outcome below belongs to one of the three things that an attempt can come to
    clear_value later a
    subst hlater
    rcases hcases with ⟨r, rfl⟩ | ⟨o, steps, rfl⟩ | ⟨f, hcompile, rfl⟩
    · exact ⟨fun _ _ => ⟨rfl, rfl⟩, nofun, nofun⟩
    · refine ⟨nofun, fun _ _ r hr => ?_, nofun⟩
      show (s.store.after c _).get r = _
      rw [Store.after_steps]
      exact Store.get_performAll hr steps
    · refine ⟨nofun, nofun, fun roots hroots => ⟨rfl, rfl, f, hcompile, ?_⟩⟩
      obtain rfl := Except.ok.inj hroots
      show Store.MountedIn _ s.store (s.store.after c _) c f _
      rw [Store.after_steps_mount]
      exact Store.mountedIn_stepsFrom hc _ f

/-- A line without a tag behind a good one leaves no trace; two good lines are put behind what is
there. -/
theorem attempt_atomic_of_two_lines :
    let s : Session :=
      { store := ⟨[{ tag := ['d'], children := [.text ['x']] }, { tag := ['e'] }]⟩ }
    let bad : Text := ['a', '\n', '.', 'b']
    let good : Text := ['a', '\n', 'b']
    0 < s.store.next ∧
      (∃ r, (Generation.attempt s.settings s.registry bad).result = .error (.template r) ∧
        s.attempted bad 0 = s) ∧
      ∃ f, (Template.compile s.settings good).2 = .ok f ∧
        Store.MountedIn (Means.of {} {}) s.store (s.attempted good 0).store 0 f [2, 3] ∧
        ((s.attempted good 0).store.get 0).children = [.text ['x'], .element 2, .element 3] := by
  have hcompile : (Template.compile {} ['a', '\n', 'b']).2 =
      .ok [.node ⟨⟨['a'], [], none, none, [], [], List.cons_ne_nil _ _⟩, some 1⟩ [],
        .node ⟨⟨['b'], [], none, none, [], [], List.cons_ne_nil _ _⟩, some 2⟩ []] := rfl
  have hbad : (Generation.attempt {} {} ['a', '\n', '.', 'b']).result =
      .error (.template ⟨2, ['.', 'b']⟩) := rfl
  have hgood : (Generation.attempt {} {} ['a', '\n', 'b']).result = .ok [0, 1] := by
    rw [Generation.attempt, hcompile]
    rfl
  intro s bad good
  have hc : 0 < s.store.next := by decide
  obtain ⟨-, hrefused, -⟩ := attempt_atomic s bad hc
  obtain ⟨-, -, -, hmounted⟩ := attempt_atomic s good hc
  obtain ⟨-, -, f, hf, hinto⟩ := hmounted _ hgood
  refine ⟨hc, ⟨_, hbad, (hrefused _ hbad).2⟩, f, hf, hinto, ?_⟩
  rw [hinto.container]
  rfl

end Session

end Outline
