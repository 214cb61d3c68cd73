import Outline.Event.Registry
import Outline.Proofs.Event.Name

/-!
# Histories of a registry

A registry is told by the calls that were made to register bindings, in their order.  Every call
that lacks no part adds one binding, and names that mean the same share a place, which the earliest
binding keeps.

* `Registration`: the parts that a call gives; `Registration.missing`: those that it lacks.
* `Registry.ofCalls`: the registry after a list of calls.
* `Registry.first_stays`: what the registry holds and what is found in it.
* `Registry.lookup_name_iff`: the bindings that are found under their own names.
-/

namespace Outline

open Event Registry

/-- What is given to register a binding. -/
structure Registration where
  name : Option Text
  trigger : Option Text
  callback : Option Text
  options : List (Data × Data) := []

namespace Registration

variable {c : Registration} {n : Text} {b : Binding}

def gives (c : Registration) : Part → Bool
  | .name => (given c.name).isSome
  | .trigger => (given c.trigger).isSome
  | .callback => c.callback.isSome

/-- The parts that are missing, in the order in which they are asked for. -/
def missing (c : Registration) : List Part := [.name, .trigger, .callback].filter (!c.gives ·)

def binding? (c : Registration) : Option Binding :=
  (bindingOf c.name c.trigger c.callback c.options).toOption

/-- The name that is given means the same as another one. -/
def Means (c : Registration) (n : Text) : Prop := ∃ g ∈ c.name, plainName g = plainName n

theorem given_eq_some_iff {t : Option Text} : given t = some n ↔ t = some n ∧ n ≠ [] := by
  cases t with
  | none => simp [given]
  | some t =>
    cases t with
    | nil => simp [given]
    | cons x t => simp [given]; rintro rfl; simp

/-- **What comes of a registration**: the first part that is missing, or a binding under what the
name means. -/
theorem bindingOf_cases (c : Registration) :
    (∃ p, c.missing.head? = some p ∧
      bindingOf c.name c.trigger c.callback c.options = .error p) ∨
    ∃ g t k, c.missing = [] ∧ c.name = some g ∧ g ≠ [] ∧ c.trigger = some t ∧
      c.callback = some k ∧
      bindingOf c.name c.trigger c.callback c.options = .ok ⟨plainName g, t, k, c.options⟩ := by
  cases hname : given c.name with
  | none => exact .inl ⟨.name, by simp [missing, gives, hname], by simp [bindingOf, hname]⟩
  | some g =>
    cases htrigger : given c.trigger with
    | none =>
      exact .inl ⟨.trigger, by simp [missing, gives, hname, htrigger],
        by simp [bindingOf, hname, htrigger]⟩
    | some t =>
      cases hcallback : c.callback with
      | none =>
        exact .inl ⟨.callback, by simp [missing, gives, hname, htrigger, hcallback],
          by simp [bindingOf, hname, htrigger]⟩
      | some k =>
        obtain ⟨hg, hne⟩ := given_eq_some_iff.mp hname
        obtain ⟨ht, -⟩ := given_eq_some_iff.mp htrigger
        exact .inr ⟨g, t, k, by simp [missing, gives, hname, htrigger, hcallback], hg, hne, ht,
          rfl, by simp [bindingOf, hname, htrigger]⟩

theorem binding?_isSome_iff : c.binding?.isSome ↔ c.missing = [] := by
  rcases bindingOf_cases c with ⟨p, hmissing, hof⟩ | ⟨g, t, k, hmissing, -, -, -, -, hof⟩
  · have hne : c.missing ≠ [] := by rintro h; simp [h] at hmissing
    simp [binding?, hof, hne, Except.toOption]
  · simp [binding?, hof, hmissing, Except.toOption]

theorem name_of_binding? (h : c.binding? = some b) :
    ∃ g, c.name = some g ∧ g ≠ [] ∧ b.name = plainName g := by
  rw [binding?] at h
  rcases bindingOf_cases c with ⟨p, -, hof⟩ | ⟨g, t, k, -, hname, hne, -, -, hof⟩
  · rw [hof] at h
    exact absurd h nofun
  · rw [hof] at h
    obtain rfl := Option.some.inj h
    exact ⟨g, hname, hne, rfl⟩

theorem means_iff (h : c.binding? = some b) : c.Means n ↔ b.name = plainName n := by
  obtain ⟨g, hname, -, hb⟩ := name_of_binding? h
  simp [Means, hname, hb]

end Registration

namespace Registry

variable {r : Registry} {c : Registration} {cs : List Registration} {n : Text} {b : Binding}

def record (r : Registry) (c : Registration) : Registry :=
  match r.register c.name c.trigger c.callback c.options with
  | .ok p => p.1
  | .error _ => r

def ofCalls (cs : List Registration) : Registry := cs.foldl record {}

theorem register_eq_error_iff {p : Part} :
    r.register c.name c.trigger c.callback c.options = .error p ↔ c.missing.head? = some p := by
  rw [register]
  rcases c.bindingOf_cases with ⟨q, hmissing, hof⟩ | ⟨g, t, k, hmissing, -, -, -, -, hof⟩
  · simp [hof, hmissing, Except.map]
  · simp [hof, hmissing, Except.map]

/-! ### One call and many -/

theorem record_of_none (h : c.binding? = none) : r.record c = r := by
  rw [Registration.binding?] at h
  rw [record, register]
  cases hof : bindingOf c.name c.trigger c.callback c.options with
  | error p => rfl
  | ok b =>
    rw [hof] at h
    exact absurd h nofun

theorem record_of_some (h : c.binding? = some b) : r.record c = r.add b := by
  rw [Registration.binding?] at h
  rw [record, register]
  cases hof : bindingOf c.name c.trigger c.callback c.options with
  | error p =>
    rw [hof] at h
    exact absurd h nofun
  | ok b' =>
    rw [hof] at h
    rw [← Option.some.inj h]
    rfl

theorem bindings_record (r : Registry) (c : Registration) :
    (r.record c).bindings = r.bindings ++ c.binding?.toList := by
  cases h : c.binding? with
  | none => rw [record_of_none h]; simp
  | some b => rw [record_of_some h]; rfl

/-- **A registry holds one binding for each call that lacks no part**, in the order of the calls. -/
theorem bindings_foldl (r : Registry) (cs : List Registration) :
    (cs.foldl record r).bindings = r.bindings ++ cs.filterMap Registration.binding? := by
  induction cs generalizing r with
  | nil => simp
  | cons c cs ih =>
    rw [List.foldl_cons, ih, bindings_record, List.append_assoc]
    cases h : c.binding? <;> simp [h]

theorem bindings_ofCalls (cs : List Registration) :
    (ofCalls cs).bindings = cs.filterMap Registration.binding? := by
  rw [ofCalls, bindings_foldl, List.nil_append]

/-! ### Looking up -/

theorem lookup_foldl (h : r.lookup n = some b) (cs : List Registration) :
    (cs.foldl record r).lookup n = some b := by
  rw [lookup] at h ⊢
  rw [bindings_foldl, List.find?_append, h, Option.some_or]

/-- A call makes a binding that is found under a name when it lacks nothing and means that name. -/
theorem any_binding?_iff : (c.binding?.any fun b => b.name == plainName n) = true ↔
    c.missing = [] ∧ c.Means n := by
  rw [← Registration.binding?_isSome_iff]
  cases h : c.binding? with
  | none => simp
  | some b => simp [Registration.means_iff h]

/-- **The binding in force** is that of the earliest call whose name means the same. -/
theorem lookup_ofCalls_eq_some_iff : (ofCalls cs).lookup n = some b ↔
    ∃ before c after, cs = before ++ c :: after ∧ c.binding? = some b ∧ c.Means n ∧
      ∀ d ∈ before, d.missing = [] → ¬d.Means n := by
  rw [lookup, bindings_ofCalls, List.find?_filterMap, Option.bind_eq_some_iff]
  constructor
  · rintro ⟨c, hfind, hb⟩
    obtain ⟨hc, before, after, rfl, hbefore⟩ := List.find?_eq_some_iff_append.mp hfind
    refine ⟨before, c, after, rfl, hb, (any_binding?_iff.mp hc).2, fun d hd hmissing hmeans => ?_⟩
    have := hbefore d hd
    rw [any_binding?_iff.mpr ⟨hmissing, hmeans⟩] at this
    exact absurd this (by decide)
  · rintro ⟨before, c, after, rfl, hb, hmeans, hbefore⟩
    have hmissing : c.missing = [] := Registration.binding?_isSome_iff.mp (by rw [hb]; rfl)
    refine ⟨c, List.find?_eq_some_iff_append.mpr
      ⟨any_binding?_iff.mpr ⟨hmissing, hmeans⟩, before, after, rfl, fun d hd => ?_⟩, hb⟩
    by_contra h
    have hany : (d.binding?.any fun b => b.name == plainName n) = true := by simpa using h
    obtain ⟨hno, hd'⟩ := any_binding?_iff.mp hany
    exact hbefore d hd hno hd'

theorem lookup_ofCalls_eq_none_iff :
    (ofCalls cs).lookup n = none ↔ ∀ c ∈ cs, c.missing = [] → ¬c.Means n := by
  rw [lookup, bindings_ofCalls, List.find?_eq_none]
  constructor
  · intro h c hc hmissing hmeans
    obtain ⟨b, hb⟩ := Option.isSome_iff_exists.mp (Registration.binding?_isSome_iff.mpr hmissing)
    have hname := (Registration.means_iff hb).mp hmeans
    exact h b (List.mem_filterMap.mpr ⟨c, hc, hb⟩) (by simp [hname])
  · intro h b hb hname
    obtain ⟨c, hc, hcb⟩ := List.mem_filterMap.mp hb
    have hmissing : c.missing = [] := Registration.binding?_isSome_iff.mp (by rw [hcb]; rfl)
    exact h c hc hmissing ((Registration.means_iff hcb).mpr (by simpa using hname))

theorem isSome_lookup_record {g : Text} (hname : c.name = some g) (hb : c.binding? = some b)
    (r : Registry) : ((r.record c).lookup g).isSome := by
  have hmeans : b.name = plainName g := (Registration.means_iff hb).mp ⟨g, hname, rfl⟩
  rw [record_of_some hb, lookup, List.find?_isSome]
  exact ⟨b, by simp [add], by simp [hmeans]⟩

/-- **The first registration stays in force.**  A registry holds one binding for each call that
lacks no part, in the order of the calls.  A call is refused for the first part that it lacks, and
then changes nothing; any other adds the binding of its parts, and its name is known from then on.
What a name refers to is the binding of the earliest call that lacks nothing and whose name means
the same, and more calls do not change it. -/
theorem first_stays (cs : List Registration) :
    let r := ofCalls cs
    r.bindings = cs.filterMap Registration.binding? ∧
    (∀ c : Registration,
      (∀ p, r.register c.name c.trigger c.callback c.options = .error p ↔
        c.missing.head? = some p) ∧
      (c.missing ≠ [] → r.record c = r) ∧
      (c.missing = [] → ∃ g t k, c.name = some g ∧ c.trigger = some t ∧ c.callback = some k ∧
        c.binding? = some ⟨plainName g, t, k, c.options⟩ ∧
        (r.record c).bindings = r.bindings ++ [⟨plainName g, t, k, c.options⟩] ∧
        ∃ b, (r.record c).lookup g = some b)) ∧
    (∀ n b, r.lookup n = some b ↔
      ∃ before c after, cs = before ++ c :: after ∧ c.binding? = some b ∧ c.Means n ∧
        ∀ d ∈ before, d.missing = [] → ¬d.Means n) ∧
    (∀ n, r.lookup n = none ↔ ∀ c ∈ cs, c.missing = [] → ¬c.Means n) ∧
    (∀ d, r.contains d = true ↔ ∃ n b, d = .text n ∧ r.lookup n = some b) ∧
    ∀ n b ds, r.lookup n = some b → (ofCalls (cs ++ ds)).lookup n = some b := by
  intro r
  refine ⟨bindings_ofCalls cs, fun c => ⟨fun p => register_eq_error_iff, ?_, ?_⟩,
    fun n b => lookup_ofCalls_eq_some_iff, fun n => lookup_ofCalls_eq_none_iff, fun d => ?_, ?_⟩
  · intro hmissing
    have hnone : c.binding? = none := by
      rw [← Option.not_isSome_iff_eq_none, Registration.binding?_isSome_iff]
      exact hmissing
    exact record_of_none hnone
  · intro hmissing
    rcases c.bindingOf_cases with ⟨p, hp, -⟩ | ⟨g, t, k, -, hname, -, htrigger, hcallback, hof⟩
    · rw [hmissing] at hp
      exact absurd hp nofun
    · have hb : c.binding? = some ⟨plainName g, t, k, c.options⟩ := by
        rw [Registration.binding?, hof]
        rfl
      refine ⟨g, t, k, hname, htrigger, hcallback, hb, ?_, ?_⟩
      · rw [bindings_record, hb]
        rfl
      · exact Option.isSome_iff_exists.mp (isSome_lookup_record hname hb r)
  · cases d <;> simp [contains, Option.isSome_iff_exists]
  · intro n b ds h
    rw [ofCalls, List.foldl_append]
    exact lookup_foldl h ds

/-! ### Own names -/

/-- **Which bindings are found under their own names.**  A binding is stored under what the given
name means, and that is looked up as a name again.  So the first binding that is stored under its
name is found exactly when that name has no mark; else the name refers to what is stored under the
name without the mark, if anything is.  A stored name is empty when a mark and what joins it was all
that was given, and has a mark when two were given. -/
theorem lookup_name_iff (cs : List Registration) {b : Binding} (hb : b ∈ (ofCalls cs).bindings) :
    let r := ofCalls cs
    (r.lookup b.name = r.bindings.find? (fun a => a.name == b.name) ↔ isMarked b.name = false) ∧
    (r.contains (.text b.name) = true ↔ ∃ a ∈ r.bindings, a.name = plainName b.name) ∧
    ∃ c ∈ cs, c.binding? = some b ∧ ∃ g, c.name = some g ∧ b.name = plainName g ∧
      (b.name = [] ↔ ∃ j, Joins j ∧ g = ['o', 'n', j]) ∧
      (isMarked b.name = true ↔
        ∃ d rest, (Joins d ∨ d.isUpper = true) ∧ (g = 'o' :: 'n' :: 'O' :: 'n' :: d :: rest ∨
          ∃ j, Joins j ∧ (g = 'o' :: 'n' :: j :: 'o' :: 'n' :: d :: rest ∨
            g = 'o' :: 'n' :: j :: 'O' :: 'n' :: d :: rest))) := by
  intro r
  refine ⟨⟨fun h => ?_, fun h => ?_⟩, ?_, ?_⟩
  · -- what is found has the name without the mark, and the other one the name itself
    have hown : (r.bindings.find? fun a => a.name == b.name).isSome :=
      List.find?_isSome.mpr ⟨b, hb, by simp⟩
    obtain ⟨a, ha⟩ := Option.isSome_iff_exists.mp hown
    have hself : a.name = b.name := by simpa using List.find?_some ha
    rw [ha, lookup] at h
    have hplain : a.name = plainName b.name := by simpa using List.find?_some h
    exact plainName_eq_self_iff.mp (hplain.symm.trans hself)
  · rw [lookup, plainName_of_not_isMarked h]
  · simp [contains, lookup]
  · rw [bindings_ofCalls] at hb
    obtain ⟨c, hc, hcb⟩ := List.mem_filterMap.mp hb
    obtain ⟨g, hname, hne, hplain⟩ := Registration.name_of_binding? hcb
    refine ⟨c, hc, hcb, g, hname, hplain, ?_, ?_⟩
    · rw [hplain, plainName_eq_nil_iff]
      simp [hne]
    · rw [hplain, isMarked_plainName_iff]

/-- A name with one mark is found, and one with two marks is taken for another name. -/
theorem lookup_name_of_doubled :
    let click : Option Text := some ['c', 'l', 'i', 'c', 'k']
    let r := ofCalls [⟨some ['o', 'n', 'X'], click, some ['a'], []⟩,
      ⟨some ['o', 'n', '-', 'o', 'n', 'X'], click, some ['b'], []⟩]
    let b : Binding := ⟨['o', 'n', 'X'], ['c', 'l', 'i', 'c', 'k'], ['b'], []⟩
    b ∈ r.bindings ∧ isMarked b.name = true ∧
      r.lookup b.name ≠ r.bindings.find? (fun a => a.name == b.name) ∧
      (r.lookup b.name).map Binding.callback = some ['a'] ∧ r.contains (.text b.name) = true := by
  intro click r b
  have hb : b ∈ r.bindings := List.mem_cons_of_mem _ List.mem_cons_self
  obtain ⟨hfound, hcontains, -⟩ := lookup_name_iff _ hb
  have hmarked : isMarked b.name = true := rfl
  refine ⟨hb, hmarked, fun h => ?_, rfl, hcontains.mpr ⟨_, List.mem_cons_self, rfl⟩⟩
  exact absurd (hfound.mp h) (by rw [hmarked]; decide)

/-- **A binding need not be found under its own name**, and its name may be empty. -/
theorem not_lookup_name_of_doubled :
    let click : Option Text := some ['c', 'l', 'i', 'c', 'k']
    let r := ofCalls [⟨some ['o', 'n', 'O', 'n', 'X'], click, some ['a'], []⟩,
      ⟨some ['o', 'n', '-'], click, some ['b'], []⟩]
    r.bindings.map Binding.name = [['o', 'n', 'X'], []] ∧
      r.contains (.text ['o', 'n', 'X']) = false ∧ (r.lookup ['o', 'n', 'X']).isNone = true :=
  ⟨rfl, rfl, rfl⟩

end Registry

end Outline
