import Outline.Proofs.Text.Basic

/-!
# Putting lines together

Lines without breaks that are put together with line feeds between them are the lines of the text
that they make up, when none of them is empty.

* `Text.lines_intercalate`: cutting undoes putting together.
* `Text.unbroken_of_mem_lines`: a line holds no break.
* `Text.lines_append_cons_feed`: a line feed cuts any text in two.
-/

namespace Outline.Text

/-- The text holds no line break. -/
def Unbroken (t : Text) : Prop := ∀ c ∈ t, isBreak c = false

instance (t : Text) : Decidable (Unbroken t) :=
  List.decidableBAll (fun c => isBreak c = false) t

theorem Unbroken.append {t u : Text} (ht : Unbroken t) (hu : Unbroken u) : Unbroken (t ++ u) := by
  intro c hc
  exact (List.mem_append.mp hc).elim (ht c) (hu c)

theorem Unbroken.of_subset {t u : Text} (hu : Unbroken u) (h : t ⊆ u) : Unbroken t :=
  fun c hc => hu c (h hc)

theorem isBreak_eq_false_of_visible {c : Char} (h : isBlank c = false) : isBreak c = false := by
  cases hb : isBreak c with
  | false => rfl
  | true => rw [isBlank_of_isBreak hb] at h; exact absurd h Bool.true_eq_false.mp

theorem unbroken_of_visible {t : Text} (h : ∀ c ∈ t, isBlank c = false) : Unbroken t :=
  fun c hc => isBreak_eq_false_of_visible (h c hc)

theorem lines_cons {c : Char} {t : Text} (hc : isBreak c = false) : lines (c :: t) =
    match lines t with
    | [] => [[c]]
    | l :: ls => (c :: l) :: ls := by
  have hr : c ≠ '\r' := fun h => by rw [h] at hc; exact absurd hc (by decide)
  rw [lines.eq_def]
  split
  · next h => exact absurd h (List.cons_ne_nil c t)
  · next h => exact absurd (List.cons.inj h).1 hr
  · next h =>
    obtain ⟨rfl, rfl⟩ := List.cons.inj h
    exact if_neg (by rw [hc]; exact Bool.false_ne_true)

theorem lines_append_feed {t u : Text} (ht : Unbroken t) :
    lines (t ++ '\n' :: u) = t :: lines u := by
  induction t with
  | nil =>
    rw [List.nil_append, lines.eq_def]
    rfl
  | cons c t ih =>
    rw [List.cons_append, lines_cons (ht c List.mem_cons_self),
      ih fun d hd => ht d (List.mem_cons_of_mem c hd)]

theorem lines_of_unbroken {t : Text} (ht : Unbroken t) (hne : t ≠ []) : lines t = [t] := by
  induction t with
  | nil => exact absurd rfl hne
  | cons c t ih =>
    rw [lines_cons (ht c List.mem_cons_self)]
    cases t with
    | nil => rfl
    | cons d t => rw [ih (fun e he => ht e (List.mem_cons_of_mem c he)) (List.cons_ne_nil d t)]

/-- **Lines that are put together are the lines of the text.** -/
theorem lines_intercalate {ls : List Text} (h : ∀ l ∈ ls, Unbroken l ∧ l ≠ []) :
    lines (['\n'].intercalate ls) = ls := by
  induction ls with
  | nil => rfl
  | cons l ls ih =>
    obtain ⟨hl, hls⟩ := List.forall_mem_cons.mp h
    cases ls with
    | nil => rw [List.intercalate_singleton, lines_of_unbroken hl.1 hl.2]
    | cons k ls =>
      rw [List.intercalate_cons_cons, List.append_assoc, List.singleton_append,
        lines_append_feed hl.1, ih hls]

/-- **A line holds no break.** -/
theorem unbroken_of_mem_lines {t l : Text} (hl : l ∈ lines t) : Unbroken l := by
  induction t using lines.induct generalizing l with
  | case1 => exact absurd hl List.not_mem_nil
  | case2 rest ih =>
    rw [lines.eq_def] at hl
    rcases List.mem_cons.mp hl with rfl | hl
    · exact nofun
    · exact ih hl
  | case3 c rest hcr hc ih =>
    rw [lines.eq_3 c rest hcr, if_pos hc] at hl
    rcases List.mem_cons.mp hl with rfl | hl
    · exact nofun
    · exact ih hl
  | case4 c rest _ hc hnil ih =>
    have hc : isBreak c = false := Bool.eq_false_iff.mpr hc
    rw [lines_cons hc, hnil] at hl
    intro d hd
    simp only [List.mem_singleton] at hl
    rw [hl, List.mem_singleton] at hd
    rw [hd, hc]
  | case5 c rest _ hc k ks hcons ih =>
    have hc : isBreak c = false := Bool.eq_false_iff.mpr hc
    rw [hcons] at ih
    rw [lines_cons hc, hcons] at hl
    rcases List.mem_cons.mp hl with rfl | hl
    · intro d hd
      rcases List.mem_cons.mp hd with rfl | hd
      · exact hc
      · exact ih List.mem_cons_self d hd
    · exact ih (List.mem_cons_of_mem k hl)

/-! ### A line feed in a text -/

theorem lines_ne_nil {t : Text} (h : t ≠ []) : lines t ≠ [] := by
  rw [lines.eq_def]
  split
  · exact absurd rfl h
  · exact List.cons_ne_nil _ _
  · split
    · exact List.cons_ne_nil _ _
    · split <;> exact List.cons_ne_nil _ _

/-- A break ends a line before any line feed behind it, unless the two are a break together. -/
theorem lines_break_append {c : Char} {t : Text} (hc : isBreak c = true)
    (h : ∀ u, c = '\r' → t = '\n' :: u → False) :
    (c = '\r' ∧ t = []) ∨
      ∀ v, lines (c :: (t ++ '\n' :: v)) = [] :: lines (t ++ '\n' :: v) := by
  by_cases hr : c = '\r' ∧ t = []
  · exact .inl hr
  · right
    intro v
    rw [lines.eq_3, if_pos hc]
    intro rest hcr ht
    cases t with
    | nil => exact hr ⟨hcr, rfl⟩
    | cons d t => exact h t hcr (by rw [(List.cons.inj ht).1])

/-- **A line feed cuts a text in two**: the lines up to it are those of the text that ends with it,
and the other lines are those of the rest. -/
theorem lines_append_cons_feed (t u : Text) :
    lines (t ++ '\n' :: u) = lines (t ++ ['\n']) ++ lines u := by
  induction t using lines.induct with
  | case1 => rfl
  | case2 rest ih => exact congrArg ([] :: ·) ih
  | case3 c rest hcr hc ih =>
    rcases lines_break_append hc hcr with ⟨rfl, rfl⟩ | h
    · rfl
    · rw [List.cons_append, h, List.cons_append, h, ih, List.cons_append]
  | case4 c rest _ hc _ ih | case5 c rest _ hc _ _ _ ih =>
    have hc : isBreak c = false := Bool.eq_false_iff.mpr hc
    obtain ⟨l, ls, hl⟩ := List.exists_cons_of_ne_nil
      (lines_ne_nil (List.append_ne_nil_of_right_ne_nil rest (List.cons_ne_nil '\n' [])))
    rw [List.cons_append, lines_cons hc, List.cons_append, lines_cons hc, ih, hl]
    rfl

theorem lines_concat_feed (t : Text) :
    lines (t ++ ['\n']) = lines t ∨ lines (t ++ ['\n']) = lines t ++ [[]] := by
  induction t using lines.induct with
  | case1 => exact .inr rfl
  | case2 rest ih => exact ih.imp (congrArg ([] :: ·)) (congrArg ([] :: ·))
  | case3 c rest hcr hc ih =>
    rcases lines_break_append hc hcr with ⟨rfl, rfl⟩ | h
    · exact .inl rfl
    · rw [List.cons_append, h, lines.eq_3 c rest hcr, if_pos hc]
      exact ih.imp (congrArg ([] :: ·)) (congrArg ([] :: ·))
  | case4 c rest _ hc hnil ih =>
    have hc : isBreak c = false := Bool.eq_false_iff.mpr hc
    have hne := lines_ne_nil (List.append_ne_nil_of_right_ne_nil rest (List.cons_ne_nil '\n' []))
    rw [hnil] at ih
    -- the empty line that the line feed may add behind nothing is the line of the character
    left
    rw [List.cons_append, lines_cons hc, lines_cons hc, hnil, ih.resolve_left hne]
    rfl
  | case5 c rest _ hc k ks hcons ih =>
    have hc : isBreak c = false := Bool.eq_false_iff.mpr hc
    rw [List.cons_append, lines_cons hc, lines_cons hc, hcons]
    rw [hcons] at ih
    rcases ih with ih | ih
    · exact .inl (by rw [ih])
    · exact .inr (by rw [ih]; rfl)

end Outline.Text
