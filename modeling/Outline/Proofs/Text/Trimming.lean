import Mathlib.Data.List.TakeWhile
import Outline.Proofs.Text.Basic

/-!
# White space around a text

What stands around a text is taken off again by trimming, from either side and in either order.

* `Text.trim_append_left`, `Text.trim_append_right`: white space around a text means nothing.
* `Text.trimLeft_trimRight`: the two sides may be trimmed in either order.
* `Text.trim_append_of_tight`, `Text.map_trim_splitOnP_trimRight`: trimming a text in parts.
* `Text.filter_trim`: what trimming keeps.
-/

namespace Outline.Text

variable {t u w : Text}

theorem beq_or_beq_of_isBlank {a b c : Char} (ha : isBlank a = false) (hb : isBlank b = false)
    (hc : isBlank c = true) : (c == a || c == b) = false := by
  rw [Bool.or_eq_false_iff, beq_eq_false_iff_ne, beq_eq_false_iff_ne]
  constructor <;> rintro rfl
  · exact Bool.false_ne_true (ha.symm.trans hc)
  · exact Bool.false_ne_true (hb.symm.trans hc)

theorem trim_append_left (hw : isVoid w = true) (t : Text) : trim (w ++ t) = trim t := by
  rw [trim, trim, trimLeft, List.dropWhile_append_of_pos (List.all_eq_true.mp hw), trimLeft]

theorem trimRight_append_right (hw : isVoid w = true) (t : Text) :
    trimRight (t ++ w) = trimRight t := by
  have hall : ∀ c ∈ w.reverse, isBlank c = true := fun c hc =>
    List.all_eq_true.mp hw c (List.mem_reverse.mp hc)
  rw [trimRight, List.reverse_append, List.dropWhile_append_of_pos hall, trimRight]

theorem trim_append_right (hw : isVoid w = true) (t : Text) : trim (t ++ w) = trim t := by
  have hnil : trimLeft w = [] := List.dropWhile_eq_nil_iff.mpr (List.all_eq_true.mp hw)
  rw [trim, trimLeft, List.dropWhile_append, ← trimLeft, ← trimLeft, trim]
  split
  · next h => rw [hnil, List.isEmpty_iff.mp h]
  · exact trimRight_append_right hw _

/-- **Trimming leaves nothing of a blank text alone.** -/
theorem trim_eq_nil_iff : trim t = [] ↔ isVoid t = true := by
  constructor
  · intro h
    have hright : isVoid (trimLeft t) = true := by
      rw [trim, trimRight, List.reverse_eq_nil_iff, List.dropWhile_eq_nil_iff] at h
      exact List.all_eq_true.mpr fun c hc => h c (List.mem_reverse.mpr hc)
    -- the rest starts with a visible character, so there is no rest
    have hleft : trimLeft t = [] := by
      cases hl : trimLeft t with
      | nil => rfl
      | cons c u =>
        have hvisible := startsVisible_trimLeft t
        rw [hl] at hvisible hright
        have hblank := List.all_eq_true.mp hright c List.mem_cons_self
        exact absurd (hblank.symm.trans (startsVisible_cons.mp hvisible)) Bool.true_eq_false.mp
    exact List.all_eq_true.mpr (List.dropWhile_eq_nil_iff.mp hleft)
  · intro h
    have hnil := trim_append_left h []
    rwa [List.append_nil] at hnil

theorem exists_trimRight_append (t : Text) : ∃ w, isVoid w = true ∧ t = trimRight t ++ w := by
  refine ⟨(t.reverse.takeWhile isBlank).reverse, ?_, ?_⟩
  · exact List.all_eq_true.mpr fun c hc => List.mem_takeWhile_imp (List.mem_reverse.mp hc)
  · rw [trimRight, ← List.reverse_append, List.takeWhile_append_dropWhile, List.reverse_reverse]

theorem trim_trimRight (t : Text) : trim (trimRight t) = trim t := by
  obtain ⟨w, hw, ht⟩ := exists_trimRight_append t
  conv => rhs; rw [ht]
  exact (trim_append_right hw _).symm

theorem trimRight_cons_trimRight (c : Char) (t : Text) :
    trimRight (c :: trimRight t) = trimRight (c :: t) := by
  obtain ⟨w, hw, ht⟩ := exists_trimRight_append t
  conv => rhs; rw [ht]
  exact (trimRight_append_right hw (c :: trimRight t)).symm

theorem trim_trimLeft (t : Text) : trim (trimLeft t) = trim t := by
  rw [trim, trimLeft_eq_self_iff.mpr (startsVisible_trimLeft t), trim]

theorem trimLeft_trim (t : Text) : trimLeft (trim t) = trim t :=
  trimLeft_eq_self_iff.mpr (tight_trim t).1

theorem trimLeft_trimRight (t : Text) : trimLeft (trimRight t) = trim t := by
  have hsplit : (trimRight t).takeWhile isBlank ++ trimLeft (trimRight t) = trimRight t :=
    List.takeWhile_append_dropWhile
  have hends : EndsVisible (trimLeft (trimRight t)) :=
    (hsplit.symm ▸ endsVisible_trimRight t : EndsVisible _).of_append
  calc trimLeft (trimRight t)
      = trimRight (trimLeft (trimRight t)) := (trimRight_eq_self_iff.mpr hends).symm
    _ = trim t := trim_trimRight t

theorem trimRight_append_of_endsVisible (ht : EndsVisible t) (u : Text) :
    trimRight (t ++ u) = t ++ trimRight u := by
  have hrev : t.reverse.dropWhile isBlank = t.reverse :=
    trimLeft_eq_self_iff.mpr (startsVisible_reverse.mpr ht)
  rw [trimRight, List.reverse_append, List.dropWhile_append, hrev, trimRight]
  split <;> simp_all

/-- **Trimming a tight text with something behind it.** -/
theorem trim_append_of_tight (ht : Tight t) (hne : t ≠ []) (u : Text) :
    trim (t ++ u) = t ++ trimRight u := by
  have hstarts : StartsVisible (t ++ u) := by
    cases t with
    | nil => exact absurd rfl hne
    | cons c t => exact startsVisible_cons.mpr (startsVisible_cons.mp ht.1)
  rw [trim, trimLeft_eq_self_iff.mpr hstarts, trimRight_append_of_endsVisible ht.2]

theorem trim_append_cons {c : Char} (hc : isBlank c = false) (t u : Text) :
    trim (t ++ c :: u) = trimLeft t ++ c :: trimRight u := by
  have hleft : trimLeft (t ++ c :: u) = trimLeft t ++ c :: u := by
    rw [trimLeft, List.dropWhile_append, List.dropWhile_cons_of_neg (by simp [hc]), trimLeft]
    split
    · next h => rw [List.isEmpty_iff.mp h, List.nil_append]
    · rfl
  rw [trim, hleft, List.append_cons,
    trimRight_append_of_endsVisible (endsVisible_concat.mpr hc), ← List.append_cons]

theorem trim_cons {c : Char} (hc : isBlank c = false) (t : Text) :
    trim (c :: t) = c :: trimRight t := trim_append_cons hc [] t

/-- A text that is trimmed on the right starts with white space, or as it does when it is trimmed
on both sides. -/
theorem head?_trimRight {c : Char} (hc : c ∈ (trimRight t).head?) :
    isBlank c = true ∨ c ∈ (trim t).head? := by
  cases hb : isBlank c with
  | true => exact .inl rfl
  | false =>
    have hstarts : StartsVisible (trimRight t) := fun d hd => by
      rw [Option.mem_unique hd hc]
      exact hb
    rw [← trimLeft_trimRight, trimLeft_eq_self_iff.mpr hstarts]
    exact .inr hc

theorem map_trim_splitOnP_trimRight {p : Char → Bool} (hp : ∀ c, isBlank c = true → p c = false)
    (t : Text) : ((trimRight t).splitOnP p).map trim = (t.splitOnP p).map trim := by
  obtain ⟨w, hw, ht⟩ := exists_trimRight_append t
  have hpieces : ∀ u, ((u ++ w).splitOnP p).map trimRight = (u.splitOnP p).map trimRight := by
    intro u
    induction u with
    | nil =>
      have hnone : ∀ c ∈ w, p c = false := fun c hc => hp c (List.all_eq_true.mp hw c hc)
      rw [List.nil_append, List.splitOnP_eq_singleton hnone, List.splitOnP_nil]
      exact congrArg ([·]) (trimRight_append_right hw [])
    | cons c u ih =>
      obtain ⟨a, l, ha⟩ := List.exists_cons_of_ne_nil (List.splitOnP_ne_nil p (u ++ w))
      obtain ⟨b, k, hb⟩ := List.exists_cons_of_ne_nil (List.splitOnP_ne_nil p u)
      rw [List.cons_append, List.splitOnP_cons_eq_if_modifyHead,
        List.splitOnP_cons_eq_if_modifyHead]
      by_cases hc : p c = true
      · rw [if_pos hc, if_pos hc, List.map_cons, List.map_cons, ih]
      · rw [ha, hb] at ih
        obtain ⟨hhead, htail⟩ := List.cons.inj ih
        rw [if_neg hc, if_neg hc, ha, hb, List.modifyHead_cons, List.modifyHead_cons, List.map_cons,
          List.map_cons, htail, ← trimRight_cons_trimRight, hhead, trimRight_cons_trimRight]
  have htrim := congrArg (List.map trim) (hpieces (trimRight t))
  rw [← ht, List.map_map, List.map_map] at htrim
  have hcomp : trim ∘ trimRight = trim := funext trim_trimRight
  rw [hcomp] at htrim
  exact htrim.symm

theorem filter_trim {p : Char → Bool} (hp : ∀ c, isBlank c = true → p c = false) (t : Text) :
    (trim t).filter p = t.filter p := by
  have hleft : ∀ u : Text, (trimLeft u).filter p = u.filter p := by
    intro u
    induction u with
    | nil => rfl
    | cons c u ih =>
      by_cases hc : isBlank c = true
      · rw [trimLeft, List.dropWhile_cons_of_pos hc, List.filter_cons_of_neg (by simp [hp c hc])]
        exact ih
      · rw [trimLeft, List.dropWhile_cons_of_neg hc]
  rw [trim, trimRight_eq, List.filter_reverse, hleft, ← List.filter_reverse, List.reverse_reverse,
    hleft]

end Outline.Text
