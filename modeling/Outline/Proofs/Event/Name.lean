import Mathlib.Data.List.Basic
import Outline.Event.Name

/-!
# Names with a mark

The mark of a handler is taken off a name once.  What is left may start with a mark again, as `onX`
does that `onOnX` and `on-onX` mean, or be nothing at all.  So a name need not mean itself.

* `Event.plainName_eq_self_iff`: the names that mean themselves.
* `Event.plainName_eq_nil_iff`, `Event.isMarked_plainName_iff`: the names of which nothing is left,
  and those of which a name with a mark is left.
-/

namespace Outline

/-! ### Lower case -/

namespace Text

theorem length_lower_le (c : Char) : (lower c).length ≤ 2 := by
  rw [lower]
  split <;> simp

theorem lower_ne_nil (c : Char) : lower c ≠ [] := by
  rw [lower]
  split <;> simp

theorem lowerCode_eq_o {n : Nat} (h : lowerCode n = 111) : n = 111 ∨ n = 79 := by
  -- only the run of the capitals from A to Z reaches as low as the letter o
  have hruns : ∀ r ∈ lowerRuns, 111 < r.image ∨ (r.first = 65 ∧ r.image = 97) ∨
      (r.first = 8490 ∧ r.image = 107 ∧ r.last = 8490) := by decide +kernel
  rw [lowerCode] at h
  split at h
  · next r hfind =>
    have hhas := List.find?_some hfind
    simp only [CaseRun.has, Bool.and_eq_true, decide_eq_true_eq] at hhas
    have := hruns r (List.mem_of_find?_eq_some hfind)
    omega
  · exact .inl h

theorem ofNat_eq_o {n : Nat} (h : Char.ofNat n = 'o') : n = 111 := by
  rw [Char.ofNat] at h
  by_cases hn : n.isValidChar
  · rw [dif_pos hn] at h
    exact congrArg Char.toNat h
  · rw [dif_neg hn] at h
    exact absurd h (by decide)

end Text

namespace Event

theorem length_lowerFirst_le (t : Text) : (lowerFirst t).length ≤ t.length + 1 := by
  cases t with
  | nil => simp [lowerFirst]
  | cons c t =>
    have := Text.length_lower_le c
    simp [lowerFirst]
    omega

theorem lowerFirst_eq_nil_iff {t : Text} : lowerFirst t = [] ↔ t = [] := by
  cases t with
  | nil => simp [lowerFirst]
  | cons c t => simp [lowerFirst, Text.lower_ne_nil]

/-- No other letters than these have the small o as their lower case. -/
theorem lowerFirst_eq_o_iff {t u : Text} :
    lowerFirst t = 'o' :: u ↔ t = 'o' :: u ∨ t = 'O' :: u := by
  constructor
  · intro h
    cases t with
    | nil => simp [lowerFirst] at h
    | cons c t =>
      rw [lowerFirst, Text.lower] at h
      split at h
      · simp at h
      · obtain ⟨hc, rfl⟩ : Char.ofNat (Text.lowerCode c.toNat) = 'o' ∧ t = u := by simpa using h
        rcases Text.lowerCode_eq_o (Text.ofNat_eq_o hc) with hc | hc
        · have hc : c = 'o' := Char.toNat_inj.mp hc
          exact .inl (by rw [hc])
        · have hc : c = 'O' := Char.toNat_inj.mp hc
          exact .inr (by rw [hc])
  · rintro (rfl | rfl) <;> rfl

/-! ### The mark -/

/-- A character that the mark may be joined to a name by. -/
def Joins (c : Char) : Prop := c = '-' ∨ c = '_' ∨ c = ':'

/-- The name starts with the mark of a handler. -/
def isMarked : Text → Bool
  | 'o' :: 'n' :: c :: _ => c = '-' ∨ c = '_' ∨ c = ':' ∨ c.isUpper
  | _ => false

theorem isMarked_cons {c : Char} {rest : Text} :
    isMarked ('o' :: 'n' :: c :: rest) = true ↔ Joins c ∨ c.isUpper = true := by
  simp [isMarked, Joins, or_assoc]

theorem isMarked_iff {n : Text} : isMarked n = true ↔
    ∃ c rest, n = 'o' :: 'n' :: c :: rest ∧ (Joins c ∨ c.isUpper = true) := by
  constructor
  · intro h
    rw [isMarked.eq_def] at h
    split at h
    next c rest => exact ⟨c, rest, rfl, by simpa [Joins, or_assoc] using h⟩
    next => exact absurd h Bool.false_ne_true
  · rintro ⟨c, rest, rfl, h⟩
    exact isMarked_cons.mpr h

theorem plainName_of_joins {c : Char} (h : Joins c) (rest : Text) :
    plainName ('o' :: 'n' :: c :: rest) = lowerFirst rest := by
  have hc : c = '-' ∨ c = '_' ∨ c = ':' := h
  rw [plainName, if_pos hc]

theorem plainName_of_isUpper {c : Char} (h : c.isUpper = true) (rest : Text) :
    plainName ('o' :: 'n' :: c :: rest) = lowerFirst (c :: rest) := by
  have hc : ¬(c = '-' ∨ c = '_' ∨ c = ':') := by
    rintro (rfl | rfl | rfl) <;> exact absurd h (by decide)
  rw [plainName, if_neg hc, if_pos h]

theorem plainName_of_not_isMarked {n : Text} (h : isMarked n = false) : plainName n = n := by
  fun_cases plainName n <;> simp_all [isMarked]

theorem length_plainName_lt {n : Text} (h : isMarked n = true) :
    (plainName n).length < n.length := by
  obtain ⟨c, rest, rfl, hc | hc⟩ := isMarked_iff.mp h
  · have := length_lowerFirst_le rest
    rw [plainName_of_joins hc]
    simp
    omega
  · have := length_lowerFirst_le (c :: rest)
    rw [plainName_of_isUpper hc]
    simp at this ⊢
    omega

/-- **The names that mean themselves** are those without a mark. -/
theorem plainName_eq_self_iff {n : Text} : plainName n = n ↔ isMarked n = false := by
  refine ⟨fun h => ?_, plainName_of_not_isMarked⟩
  by_contra hmark
  have := length_plainName_lt (Bool.of_not_eq_false hmark)
  rw [h] at this
  omega

/-- **Nothing is left of a name** that is empty, or that is a mark and what joins it alone. -/
theorem plainName_eq_nil_iff {n : Text} :
    plainName n = [] ↔ n = [] ∨ ∃ c, Joins c ∧ n = ['o', 'n', c] := by
  cases hmark : isMarked n with
  | false =>
    rw [plainName_of_not_isMarked hmark]
    refine ⟨.inl, ?_⟩
    rintro (rfl | ⟨c, hc, rfl⟩)
    · rfl
    · exact absurd (isMarked_cons.mpr (.inl hc)) (Bool.eq_false_iff.mp hmark)
  | true =>
    obtain ⟨c, rest, rfl, hc | hc⟩ := isMarked_iff.mp hmark
    · rw [plainName_of_joins hc, lowerFirst_eq_nil_iff]
      simp [hc]
    · have hno : ¬Joins c := by
        rintro (rfl | rfl | rfl) <;> exact absurd hc (by decide)
      rw [plainName_of_isUpper hc, lowerFirst_eq_nil_iff]
      simp [hno]

/-- **A mark is left of a name** that has two of them, the second with a small or a capital o. -/
theorem isMarked_plainName_iff {n : Text} : isMarked (plainName n) = true ↔
    ∃ d rest, (Joins d ∨ d.isUpper = true) ∧ (n = 'o' :: 'n' :: 'O' :: 'n' :: d :: rest ∨
      ∃ c, Joins c ∧ (n = 'o' :: 'n' :: c :: 'o' :: 'n' :: d :: rest ∨
        n = 'o' :: 'n' :: c :: 'O' :: 'n' :: d :: rest)) := by
  constructor
  · intro h
    have hmark : isMarked n = true := by
      by_contra hno
      rw [plainName_of_not_isMarked (Bool.eq_false_iff.mpr hno)] at h
      exact hno h
    obtain ⟨c, t, rfl, hc | hc⟩ := isMarked_iff.mp hmark
    · rw [plainName_of_joins hc, isMarked_iff] at h
      obtain ⟨d, rest, ht, hd⟩ := h
      refine ⟨d, rest, hd, .inr ⟨c, hc, ?_⟩⟩
      rcases lowerFirst_eq_o_iff.mp ht with rfl | rfl
      · exact .inl rfl
      · exact .inr rfl
    · rw [plainName_of_isUpper hc, isMarked_iff] at h
      obtain ⟨d, rest, ht, hd⟩ := h
      refine ⟨d, rest, hd, .inl ?_⟩
      rcases lowerFirst_eq_o_iff.mp ht with h | h
      · obtain ⟨rfl, -⟩ := List.cons.inj h
        exact absurd hc (by decide)
      · rw [h]
  · rintro ⟨d, rest, hd, rfl | ⟨c, hc, rfl | rfl⟩⟩
    · rw [plainName_of_isUpper (by decide)]
      exact isMarked_cons.mpr hd
    · rw [plainName_of_joins hc]
      exact isMarked_cons.mpr hd
    · rw [plainName_of_joins hc]
      exact isMarked_cons.mpr hd

end Event

end Outline
