import Outline.Proofs.Event.Registry

/-!
# Names that are registered again

A registry remarks on a binding whose name is taken.  It looks the stored name up for that, which
takes a mark off it once more: so the remark is about what the stored name means.  That is the
stored name itself unless it has a mark.

* `Registry.Stores`: a binding is stored under a name.
* `Registry.noticed`: what a registry remarks on a call.
* `Registry.repeated_mem_noticed_iff`: when it remarks that the name is taken.
* `Registry.noticed_exact_iff`: the bindings for which that is exact.
-/

namespace Outline

open Event

namespace Registry

variable {r : Registry} {c : Registration} {b : Binding} {n : Text}

/-- A binding is stored under the name. -/
def Stores (r : Registry) (n : Text) : Prop := ∃ a ∈ r.bindings, a.name = n

/-- What the registry remarks on a call. -/
def noticed (r : Registry) (c : Registration) : List Notice :=
  match r.register c.name c.trigger c.callback c.options with
  | .ok p => p.2.2
  | .error _ => []

theorem isSome_lookup_iff : (r.lookup n).isSome = true ↔ r.Stores (plainName n) := by
  simp [lookup, Stores]

theorem stores_ofCalls_iff {cs : List Registration} :
    (ofCalls cs).Stores n ↔ ∃ d ∈ cs, ∃ a, d.binding? = some a ∧ a.name = n := by
  rw [Stores, bindings_ofCalls]
  constructor
  · rintro ⟨a, ha, hn⟩
    obtain ⟨d, hd, hda⟩ := List.mem_filterMap.mp ha
    exact ⟨d, hd, a, hda, hn⟩
  · rintro ⟨d, hd, a, hda, hn⟩
    exact ⟨a, List.mem_filterMap.mpr ⟨d, hd, hda⟩, hn⟩

theorem register_of_binding? (h : c.binding? = some b) :
    r.register c.name c.trigger c.callback c.options = .ok (r.add b, b, r.noticed c) ∧
      r.noticed c = r.notices b := by
  have hregister : r.register c.name c.trigger c.callback c.options =
      .ok (r.add b, b, r.notices b) := by
    rw [Registration.binding?] at h
    rw [register]
    cases hof : bindingOf c.name c.trigger c.callback c.options with
    | error p =>
      rw [hof] at h
      cases h
    | ok b' =>
      rw [hof] at h
      rw [← Option.some.inj h]
      rfl
  have hnoticed : r.noticed c = r.notices b := by rw [noticed, hregister]
  exact ⟨by rw [hnoticed, hregister], hnoticed⟩

/-- **The remark that a name is taken** is made when a binding is stored under what the new name
means. -/
theorem repeated_mem_noticed_iff (h : c.binding? = some b) :
    .repeated b.name ∈ r.noticed c ↔ r.Stores (plainName b.name) := by
  rw [(register_of_binding? h).2, notices, ← isSome_lookup_iff]
  split <;> simp [*]

theorem noticed_eq (h : c.binding? = some b) :
    r.noticed c = [] ∨ r.noticed c = [.repeated b.name] := by
  rw [(register_of_binding? h).2, notices]
  split
  · exact .inr rfl
  · exact .inl rfl

/-- **When the remark is exact.**  Whatever was registered before, a call that lacks nothing is
remarked on when a binding is stored under what its stored name means.  So the remark tells whether
one is stored under that very name, unless the name has a mark of its own and only one of the two
names is taken.  It does so after all calls exactly when the stored name has no mark. -/
theorem noticed_exact_iff (h : c.binding? = some b) :
    (∀ cs, let r := ofCalls cs
      r.register c.name c.trigger c.callback c.options = .ok (r.add b, b, r.noticed c) ∧
      (r.noticed c = [] ∨ r.noticed c = [.repeated b.name]) ∧
      (.repeated b.name ∈ r.noticed c ↔ r.Stores (plainName b.name)) ∧
      ((.repeated b.name ∈ r.noticed c ↔ r.Stores b.name) ↔
        isMarked b.name = false ∨ (r.Stores (plainName b.name) ↔ r.Stores b.name))) ∧
    ((∀ cs, .repeated b.name ∈ (ofCalls cs).noticed c ↔ (ofCalls cs).Stores b.name) ↔
      isMarked b.name = false) ∧
    (Notice.repeated b.name).wording =
      "event ".toList ++ b.name.quoted ++ " already registered, first one wins".toList := by
  refine ⟨fun cs => ⟨(register_of_binding? h).1, noticed_eq h, repeated_mem_noticed_iff h, ?_⟩,
    ⟨fun hexact => ?_, fun hmark cs => ?_⟩, rfl⟩
  · rw [repeated_mem_noticed_iff h]
    constructor
    · exact .inr
    · rintro (hmark | hboth)
      · rw [plainName_of_not_isMarked hmark]
      · exact hboth
  · -- after the call itself only its own name is stored
    have hown : ∀ m, (ofCalls [c]).Stores m ↔ b.name = m := by
      intro m
      simp [stores_ofCalls_iff, h]
    have hone := hexact [c]
    rw [repeated_mem_noticed_iff h, hown, hown] at hone
    exact plainName_eq_self_iff.mp (hone.mpr rfl).symm
  · rw [repeated_mem_noticed_iff h, plainName_of_not_isMarked hmark]

/-- A name with a mark joined to another one, after a name without. -/
theorem noticed_exact_of_doubled :
    let click : Option Text := some ['c', 'l', 'i', 'c', 'k']
    let c : Registration := ⟨some ['o', 'n', '-', 'o', 'n', 'X'], click, some ['a'], []⟩
    let b : Binding := ⟨['o', 'n', 'X'], ['c', 'l', 'i', 'c', 'k'], ['a'], []⟩
    let r := ofCalls [⟨some ['x'], click, some ['b'], []⟩]
    c.binding? = some b ∧ isMarked b.name = true ∧ .repeated b.name ∈ r.noticed c := by
  intro click c b r
  have hb : c.binding? = some b := rfl
  obtain ⟨hall, -⟩ := noticed_exact_iff hb
  obtain ⟨-, -, hnoticed, -⟩ := hall [⟨some ['x'], click, some ['b'], []⟩]
  exact ⟨hb, rfl, hnoticed.mpr ⟨_, List.mem_cons_self, rfl⟩⟩

/-- **The remark can be missing and it can be wrong.**  A binding that is registered twice under a
name with two marks is not remarked on, and one that is registered once is, after another one. -/
theorem not_noticed_exact_of_doubled :
    let click : Option Text := some ['c', 'l', 'i', 'c', 'k']
    let c : Registration := ⟨some ['o', 'n', 'O', 'n', 'X'], click, some ['a'], []⟩
    let d : Registration := ⟨some ['x'], click, some ['b'], []⟩
    c.binding?.map Binding.name = some ['o', 'n', 'X'] ∧
      ((ofCalls [c]).Stores ['o', 'n', 'X'] ∧ (ofCalls [c]).noticed c = []) ∧
      ¬(ofCalls [d]).Stores ['o', 'n', 'X'] ∧
      (ofCalls [d]).noticed c = [.repeated ['o', 'n', 'X']] := by
  refine ⟨rfl, ⟨⟨_, List.mem_cons_self, rfl⟩, rfl⟩, ?_, rfl⟩
  rintro ⟨a, ha, hname⟩
  obtain rfl := List.mem_singleton.mp ha
  exact absurd hname (by decide)

end Registry

end Outline
