import Outline.Event.Registry
import Mathlib.Data.List.Forall2

/-!
# Equality of values and bindings

Equality of values looks through numbers of different kinds and through the order of sets and
mappings, so it is not equality of terms.  It is an equivalence all the same.  So is equality of
bindings, and it does not separate bindings that are called once from others.

* `Data.same_refl`, `Data.same_symm`, `Data.same_trans`: equality of values is an equivalence.
* `Data.truth_eq_of_same`: equal values count as set together.
* `Binding.same_eq_of_same`: equal bindings equal the same bindings.
* `Binding.once_of_same`: a binding that equals one that is called once is called once.
-/

namespace Outline

namespace Data

/-- Induction over values, with the items of a collection at hand. -/
theorem induction_on {P : Data → Prop} (hnull : P null) (hbool : ∀ b, P (bool b))
    (hint : ∀ n, P (int n)) (hdouble : ∀ x, P (double x)) (htext : ∀ t, P (text t))
    (hbytes : ∀ bs, P (bytes bs)) (hmoment : ∀ i, P (moment i))
    (hlist : ∀ xs, (∀ x ∈ xs, P x) → P (list xs)) (hset : ∀ xs, (∀ x ∈ xs, P x) → P (set xs))
    (hdict : ∀ es, (∀ e ∈ es, P e.1 ∧ P e.2) → P (dict es)) (d : Data) : P d :=
  @Data.rec P (fun xs => ∀ x ∈ xs, P x) (fun es => ∀ e ∈ es, P e.1 ∧ P e.2)
    (fun e => P e.1 ∧ P e.2) hnull hbool hint hdouble htext hbytes hmoment hlist hset hdict
    nofun (fun _ _ hx hxs => List.forall_mem_cons.mpr ⟨hx, hxs⟩)
    nofun (fun _ _ he hes => List.forall_mem_cons.mpr ⟨he, hes⟩) (fun _ _ hk hv => ⟨hk, hv⟩) d

/-! ### Equality of collections -/

section Covers

variable {α : Type} {R : α → α → Prop} {xs ys zs : List α}

/-- Each item of one list is related to one of the other, and the other way round. -/
def Covers (R : α → α → Prop) (xs ys : List α) : Prop :=
  (∀ x ∈ xs, ∃ y ∈ ys, R x y) ∧ ∀ y ∈ ys, ∃ x ∈ xs, R x y

theorem Covers.refl (h : ∀ x ∈ xs, R x x) : Covers R xs xs :=
  ⟨fun x hx => ⟨x, hx, h x hx⟩, fun x hx => ⟨x, hx, h x hx⟩⟩

theorem Covers.symm (h : ∀ x ∈ xs, ∀ y, R x y → R y x) (hxy : Covers R xs ys) :
    Covers R ys xs := by
  refine ⟨fun y hy => ?_, fun x hx => ?_⟩
  · obtain ⟨x, hx, hR⟩ := hxy.2 y hy
    exact ⟨x, hx, h x hx y hR⟩
  · obtain ⟨y, hy, hR⟩ := hxy.1 x hx
    exact ⟨y, hy, h x hx y hR⟩

theorem Covers.trans (h : ∀ x ∈ xs, ∀ y z, R x y → R y z → R x z) (hxy : Covers R xs ys)
    (hyz : Covers R ys zs) : Covers R xs zs := by
  refine ⟨fun x hx => ?_, fun z hz => ?_⟩
  · obtain ⟨y, hy, hR⟩ := hxy.1 x hx
    obtain ⟨z, hz, hS⟩ := hyz.1 y hy
    exact ⟨z, hz, h x hx y z hR hS⟩
  · obtain ⟨y, hy, hS⟩ := hyz.2 z hz
    obtain ⟨x, hx, hR⟩ := hxy.2 y hy
    exact ⟨x, hx, h x hx y z hR hS⟩

theorem Covers.isEmpty_eq (hxy : Covers R xs ys) : xs.isEmpty = ys.isEmpty := by
  rcases xs with _ | ⟨x, xs⟩ <;> rcases ys with _ | ⟨y, ys⟩
  · rfl
  · exact absurd (hxy.2 y List.mem_cons_self) (by simp)
  · exact absurd (hxy.1 x List.mem_cons_self) (by simp)
  · rfl

theorem forall₂_symm (h : ∀ x ∈ xs, ∀ y, R x y → R y x) (hxy : List.Forall₂ R xs ys) :
    List.Forall₂ R ys xs :=
  (((List.forall₂_and_left xs ys).mpr ⟨h, hxy⟩).imp fun _ y hR => hR.1 y hR.2).flip

theorem forall₂_trans (h : ∀ x ∈ xs, ∀ y z, R x y → R y z → R x z)
    (hxy : List.Forall₂ R xs ys) (hyz : List.Forall₂ R ys zs) : List.Forall₂ R xs zs := by
  induction hxy generalizing zs with
  | nil => exact hyz
  | cons hR _ ih =>
    obtain ⟨z, zs, hS, hrest, rfl⟩ := List.forall₂_cons_left_iff.mp hyz
    obtain ⟨hx, hxs⟩ := List.forall_mem_cons.mp h
    exact .cons (hx _ _ hR hS) (ih hxs hrest)

end Covers

theorem within_iff {xs ys : List Data} :
    within xs ys = true ↔ ∀ x ∈ xs, ∃ y ∈ ys, same x y = true := by
  induction xs with
  | nil => simp [within]
  | cons x xs ih => simp [within, ih]

theorem among_iff {xs : List Data} {y : Data} :
    among xs y = true ↔ ∃ x ∈ xs, same x y = true := by
  induction xs with
  | nil => simp [among]
  | cons x xs ih => simp [among, ih]

theorem sameEntry_iff {d e : Data × Data} :
    sameEntry d e = true ↔ same d.1 e.1 = true ∧ same d.2 e.2 = true := by
  rw [sameEntry, Bool.and_eq_true]

theorem entriesWithin_iff {xs ys : List (Data × Data)} :
    entriesWithin xs ys = true ↔ ∀ d ∈ xs, ∃ e ∈ ys, sameEntry d e = true := by
  induction xs with
  | nil => simp [entriesWithin]
  | cons d xs ih => simp [entriesWithin, ih]

theorem entryAmong_iff {xs : List (Data × Data)} {e : Data × Data} :
    entryAmong xs e = true ↔ ∃ d ∈ xs, sameEntry d e = true := by
  induction xs with
  | nil => simp [entryAmong]
  | cons d xs ih => simp [entryAmong, ih]

theorem same_list_iff {xs ys : List Data} :
    same (list xs) (list ys) = true ↔ List.Forall₂ (fun x y => same x y = true) xs ys := by
  rw [same]
  induction xs generalizing ys with
  | nil => cases ys <;> simp [sameAll]
  | cons x xs ih => cases ys <;> simp [sameAll, ih]

theorem same_set_iff {xs ys : List Data} :
    same (set xs) (set ys) = true ↔ Covers (fun x y => same x y = true) xs ys := by
  simp only [same, Bool.and_eq_true, within_iff, List.all_eq_true, among_iff, Covers]

theorem same_dict_iff {xs ys : List (Data × Data)} :
    same (dict xs) (dict ys) = true ↔ Covers (fun d e => sameEntry d e = true) xs ys := by
  simp only [same, Bool.and_eq_true, entriesWithin_iff, List.all_eq_true, entryAmong_iff, Covers]

/-! ### Equality is an equivalence -/

variable {a b c : Data}

theorem same_number_iff (ha : number a ≠ none) : same a b = true ↔ number a = number b := by
  cases a with
  | bool | int | double => exact beq_iff_eq
  | null | text | bytes | moment | list | set | dict => exact absurd rfl ha

/-- The ways in which values are equal. -/
inductive Alike : Data → Data → Prop
  | refl (a : Data) : Alike a a
  | number {a b : Data} (ha : number a ≠ none) (h : number a = number b) : Alike a b
  | list {xs ys : List Data} (h : List.Forall₂ (fun x y => same x y = true) xs ys) :
      Alike (list xs) (list ys)
  | set {xs ys : List Data} (h : Covers (fun x y => same x y = true) xs ys) :
      Alike (set xs) (set ys)
  | dict {xs ys : List (Data × Data)} (h : Covers (fun d e => sameEntry d e = true) xs ys) :
      Alike (dict xs) (dict ys)

theorem alike_of_same (h : same a b = true) : Alike a b := by
  cases a with
  | bool | int | double => exact .number (Option.some_ne_none _) (beq_iff_eq.mp h)
  | null =>
    cases b with
    | null => exact .refl _
    | _ => cases h
  | moment i =>
    cases b with
    | moment j => exact beq_iff_eq.mp h ▸ .refl _
    | _ => cases h
  | text t =>
    cases b with
    | text u => exact beq_iff_eq.mp h ▸ .refl _
    | _ => cases h
  | bytes s =>
    cases b with
    | bytes t => exact beq_iff_eq.mp h ▸ .refl _
    | _ => cases h
  | list xs =>
    cases b with
    | list ys => exact .list (same_list_iff.mp h)
    | _ => cases h
  | set xs =>
    cases b with
    | set ys => exact .set (same_set_iff.mp h)
    | _ => cases h
  | dict xs =>
    cases b with
    | dict ys => exact .dict (same_dict_iff.mp h)
    | _ => cases h

theorem same_refl (d : Data) : same d d = true := by
  induction d using induction_on with
  | hnull => rfl
  | hbool | hint | hdouble | htext | hbytes | hmoment => exact beq_self_eq_true _
  | hlist xs ih => exact same_list_iff.mpr (List.forall₂_same.mpr ih)
  | hset xs ih => exact same_set_iff.mpr (.refl ih)
  | hdict es ih => exact same_dict_iff.mpr (.refl fun e he => sameEntry_iff.mpr (ih e he))

theorem same_symm (h : same a b = true) : same b a = true := by
  induction a using induction_on generalizing b with
  | hnull | hbool | hint | hdouble | htext | hbytes | hmoment =>
    cases alike_of_same h with
    | refl => exact h
    | number ha heq => exact (same_number_iff (heq ▸ ha)).mpr heq.symm
  | hlist xs ih =>
    cases alike_of_same h with
    | refl => exact h
    | number ha => exact absurd rfl ha
    | list hxy => exact same_list_iff.mpr (forall₂_symm (fun x hx y => ih x hx) hxy)
  | hset xs ih =>
    cases alike_of_same h with
    | refl => exact h
    | number ha => exact absurd rfl ha
    | set hxy => exact same_set_iff.mpr (hxy.symm fun x hx y => ih x hx)
  | hdict es ih =>
    cases alike_of_same h with
    | refl => exact h
    | number ha => exact absurd rfl ha
    | dict hxy =>
      refine same_dict_iff.mpr (hxy.symm fun d hd e hde => ?_)
      obtain ⟨hkey, hvalue⟩ := sameEntry_iff.mp hde
      exact sameEntry_iff.mpr ⟨(ih d hd).1 hkey, (ih d hd).2 hvalue⟩

theorem same_trans (h : same a b = true) (h' : same b c = true) : same a c = true := by
  induction a using induction_on generalizing b c with
  | hnull | hbool | hint | hdouble | htext | hbytes | hmoment =>
    cases alike_of_same h with
    | refl => exact h'
    | number ha heq =>
      have heq' := (same_number_iff (heq ▸ ha)).mp h'
      exact (same_number_iff ha).mpr (heq.trans heq')
  | hlist xs ih =>
    cases alike_of_same h with
    | refl => exact h'
    | number ha => exact absurd rfl ha
    | list hxy =>
      cases alike_of_same h' with
      | refl => exact h
      | number hb => exact absurd rfl hb
      | list hyz => exact same_list_iff.mpr (forall₂_trans (fun x hx y z => ih x hx) hxy hyz)
  | hset xs ih =>
    cases alike_of_same h with
    | refl => exact h'
    | number ha => exact absurd rfl ha
    | set hxy =>
      cases alike_of_same h' with
      | refl => exact h
      | number hb => exact absurd rfl hb
      | set hyz => exact same_set_iff.mpr (hxy.trans (fun x hx y z => ih x hx) hyz)
  | hdict es ih =>
    cases alike_of_same h with
    | refl => exact h'
    | number ha => exact absurd rfl ha
    | dict hxy =>
      cases alike_of_same h' with
      | refl => exact h
      | number hb => exact absurd rfl hb
      | dict hyz =>
        refine same_dict_iff.mpr (hxy.trans (fun d hd e f hde hef => ?_) hyz)
        obtain ⟨hkey, hvalue⟩ := sameEntry_iff.mp hde
        obtain ⟨hkey', hvalue'⟩ := sameEntry_iff.mp hef
        exact sameEntry_iff.mpr ⟨(ih d hd).1 hkey hkey', (ih d hd).2 hvalue hvalue'⟩

/-! ### Values that count as set -/

theorem ofInt_eq_zero_iff {n : Int} : Dyadic.ofInt n = 0 ↔ n = 0 := by
  rw [Dyadic.ofInt, Dyadic.ofIntWithPrec]
  split <;> simp_all

theorem truth_eq_of_number {x : Double} (h : number a = some x) :
    a.truth = decide (x ≠ .finite .zero) := by
  cases a with
  | bool b =>
    obtain rfl := Option.some.inj h
    cases b <;> rfl
  | int n =>
    obtain rfl := Option.some.inj h
    simp [truth, ofInt_eq_zero_iff]
  | double y =>
    obtain rfl := Option.some.inj h
    rfl
  | null | text | bytes | moment | list | set | dict => cases h

theorem truth_eq_of_same (h : same a b = true) : a.truth = b.truth := by
  cases alike_of_same h with
  | refl => rfl
  | number ha heq =>
    obtain ⟨x, hx⟩ := Option.ne_none_iff_exists'.mp ha
    rw [truth_eq_of_number hx, truth_eq_of_number (heq ▸ hx)]
  | list hxy => cases hxy <;> rfl
  | set hxy => exact congrArg (!·) hxy.isEmpty_eq
  | dict hxy => exact congrArg (!·) hxy.isEmpty_eq

end Data

/-! ### Bindings -/

namespace Binding

variable {a b c : Binding}

theorem same_iff : a.same b = true ↔
    a.name = b.name ∧ a.trigger = b.trigger ∧ a.callback = b.callback ∧
      Data.same (.dict a.options) (.dict b.options) = true := by
  simp only [same, Bool.and_eq_true, beq_iff_eq, and_assoc]

theorem same_refl (b : Binding) : b.same b = true :=
  same_iff.mpr ⟨rfl, rfl, rfl, Data.same_refl _⟩

theorem same_symm (h : a.same b = true) : b.same a = true := by
  obtain ⟨hname, htrigger, hcallback, hoptions⟩ := same_iff.mp h
  exact same_iff.mpr ⟨hname.symm, htrigger.symm, hcallback.symm, Data.same_symm hoptions⟩

theorem same_trans (h : a.same b = true) (h' : b.same c = true) : a.same c = true := by
  obtain ⟨hname, htrigger, hcallback, hoptions⟩ := same_iff.mp h
  obtain ⟨hname', htrigger', hcallback', hoptions'⟩ := same_iff.mp h'
  exact same_iff.mpr ⟨hname.trans hname', htrigger.trans htrigger', hcallback.trans hcallback',
    Data.same_trans hoptions hoptions'⟩

theorem same_eq_of_same (h : a.same b = true) (c : Binding) : a.same c = b.same c :=
  Bool.eq_iff_iff.mpr ⟨same_trans (same_symm h), same_trans h⟩

/-- A binding that equals one that is called once is called once. -/
theorem once_of_same (h : a.same b = true) (hb : b.once = true) : a.once = true := by
  obtain ⟨-, -, -, hoptions⟩ := same_iff.mp h
  obtain ⟨e, he, hset⟩ := List.any_eq_true.mp hb
  obtain ⟨hkey, hvalue⟩ := Bool.and_eq_true_iff.mp hset
  obtain ⟨d, hd, hde⟩ := (Data.same_dict_iff.mp hoptions).2 e he
  obtain ⟨hdkey, hdvalue⟩ := Data.sameEntry_iff.mp hde
  exact List.any_eq_true.mpr ⟨d, hd, Bool.and_eq_true_iff.mpr
    ⟨Data.same_trans hdkey hkey, (Data.truth_eq_of_same hdvalue).trans hvalue⟩⟩

end Binding

end Outline
