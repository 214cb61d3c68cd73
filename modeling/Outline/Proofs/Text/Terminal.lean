import Outline.Proofs.Text.Basic
import Outline.Text.Terminal

/-!
# Text that is shown as it is

* `Text.withoutSequences_eq_self_iff`: the messages that are printed as they are.
* `Text.label_eq_self_iff`: the labels that are shown as they are.
-/

namespace Outline.Text

/-- The text holds no escape sequence. -/
def Sequenceless (t : Text) : Prop :=
  ∀ u c v, t = u ++ c :: v → c.toNat = 27 → sequenceLength v = none

theorem sequenceless_cons {c : Char} {t : Text} :
    Sequenceless (c :: t) ↔ (c.toNat = 27 → sequenceLength t = none) ∧ Sequenceless t := by
  constructor
  · intro h
    exact ⟨h [] c t rfl, fun u d v ht => h (c :: u) d v (congrArg (c :: ·) ht)⟩
  · rintro ⟨hc, ht⟩ u d v heq
    cases u with
    | nil =>
      obtain ⟨rfl, rfl⟩ := List.cons.inj heq
      exact hc
    | cons e u => exact ht u d v (List.cons.inj heq).2

theorem length_withoutSequencesFrom_le (skip : Nat) (t : Text) :
    (withoutSequencesFrom skip t).length ≤ t.length := by
  induction t generalizing skip with
  | nil => cases skip <;> exact Nat.le_refl 0
  | cons c t ih =>
    cases skip with
    | succ skip => exact Nat.le_trans (ih skip) (Nat.le_succ _)
    | zero =>
      have hkept : (c :: withoutSequencesFrom 0 t).length ≤ (c :: t).length :=
        Nat.succ_le_succ (ih 0)
      rw [withoutSequencesFrom]
      split
      · split
        · exact Nat.le_trans (ih _) (Nat.le_succ _)
        · exact hkept
      · exact hkept

/-- **The texts that are printed as they are**: those that hold no escape sequence. -/
theorem withoutSequences_eq_self_iff {t : Text} : withoutSequences t = t ↔ Sequenceless t := by
  induction t with
  | nil => exact ⟨fun _ u c v h => by simp at h, fun _ => rfl⟩
  | cons c t ih =>
    rw [withoutSequences] at ih
    rw [withoutSequences, withoutSequencesFrom, sequenceless_cons, ← ih]
    by_cases hc : c.toNat = 27
    · rw [if_pos hc]
      cases hlength : sequenceLength t with
      | none => simp
      | some n =>
        -- a sequence that is taken out makes the text shorter
        have hle := length_withoutSequencesFrom_le n t
        constructor
        · intro h
          have hlen : (withoutSequencesFrom n t).length = t.length + 1 := congrArg List.length h
          omega
        · rintro ⟨hnone, -⟩
          exact absurd (hnone hc) nofun
    · rw [if_neg hc]
      simp [hc]

/-! ### Labels -/

/-- A control character; tabs and line breaks are some. -/
def isControl (c : Char) : Bool := c.toNat < 32 || (127 ≤ c.toNat && c.toNat < 160)

/-- The character is **shown** in a label: it is no tab and does not move the print head. -/
def isShown (c : Char) : Bool := c != '\t' && !movesHead c

theorem isShown_of_not_isControl {c : Char} (h : isControl c = false) : isShown c = true := by
  have htab : c ≠ '\t' := by
    rintro rfl
    exact absurd h (by decide)
  simp only [isControl, Bool.or_eq_false_iff, decide_eq_false_iff_not] at h
  simp only [isShown, movesHead, Bool.and_eq_true, bne_iff_ne, Bool.not_eq_true',
    List.contains_eq_mem, decide_eq_false_iff_not, List.mem_cons, List.not_mem_nil, or_false]
  refine ⟨htab, ?_⟩
  omega

theorem fillTabs_eq_self {t : Text} (h : '\t' ∉ t) : fillTabs t = t := by
  have hline : ∀ line ∈ t.splitOn '\n', fillPieces 0 (line.splitOn '\t') = line := by
    intro line hline
    have hno : ∀ c ∈ line, (c == '\t') = false := by
      intro c hc
      rw [beq_eq_false_iff_ne]
      rintro rfl
      exact h ((sublist_of_mem_splitOn hline).1.subset hc)
    rw [List.splitOn_eq_splitOnP, List.splitOnP_eq_singleton hno]
    rfl
  rw [fillTabs, List.map_congr_left hline, List.map_id', List.intercalate_splitOn]

theorem mem_fillPieces {c : Char} {column : Nat} {pieces : List Text}
    (hc : c ∈ fillPieces column pieces) : c = ' ' ∨ ∃ p ∈ pieces, c ∈ p := by
  fun_induction fillPieces column pieces with
  | case1 => exact absurd hc List.not_mem_nil
  | case2 column piece => exact .inr ⟨piece, List.mem_singleton_self piece, hc⟩
  | case3 column piece rest _ reached stop ih =>
    simp only [List.mem_append, List.mem_cons, List.mem_replicate] at hc
    rcases hc with (hpiece | rfl | ⟨-, rfl⟩) | hrest
    · exact .inr ⟨piece, List.mem_cons_self, hpiece⟩
    · exact .inl rfl
    · exact .inl rfl
    · exact (ih hrest).imp_right fun ⟨p, hp, hcp⟩ => ⟨p, List.mem_cons_of_mem _ hp, hcp⟩

theorem mem_fillTabs {c : Char} {t : Text} (hc : c ∈ fillTabs t) :
    c = ' ' ∨ (c ∈ t ∧ c ≠ '\t') := by
  have hpieces : ∀ u : Text, c ∈ fillPieces 0 (u.splitOn '\t') → c = ' ' ∨ (c ∈ u ∧ c ≠ '\t') := by
    intro u hcu
    refine (mem_fillPieces hcu).imp_right ?_
    rintro ⟨p, hp, hcp⟩
    obtain ⟨hsub, htab⟩ := sublist_of_mem_splitOn hp
    exact ⟨hsub.subset hcp, fun h => htab (h ▸ hcp)⟩
  by_cases hfeed : '\n' ∈ t
  · rcases mem_intercalate hc with hc | ⟨u, hu, hcu⟩
    · rw [List.mem_singleton.mp hc]
      exact .inr ⟨hfeed, by decide⟩
    · obtain ⟨v, hv, rfl⟩ := List.mem_map.mp hu
      refine (hpieces v hcu).imp_right fun h => ⟨?_, h.2⟩
      exact (sublist_of_mem_splitOn hv).1.subset h.1
  · rw [fillTabs, List.splitOn_eq_singleton hfeed] at hc
    exact hpieces t (by simpa using hc)

/-- **A label shows nothing else** than spaces and characters of the text that are shown. -/
theorem mem_label {c : Char} {t : Text} (hc : c ∈ label t) :
    isShown c = true ∧ (c = ' ' ∨ c ∈ t) := by
  rcases mem_fillTabs hc with rfl | ⟨hmem, htab⟩
  · exact ⟨by decide, .inl rfl⟩
  · obtain ⟨hct, hhead⟩ := List.mem_filter.mp hmem
    refine ⟨?_, .inr hct⟩
    rw [isShown, hhead, Bool.and_true, bne_iff_ne]
    exact htab

/-- **The labels that are shown as they are**: those all of whose characters are shown. -/
theorem label_eq_self_iff {t : Text} : label t = t ↔ ∀ c ∈ t, isShown c = true := by
  constructor
  · intro h c hc
    rw [← h] at hc
    exact (mem_label hc).1
  · intro h
    have hhead : t.filter (fun c => !movesHead c) = t :=
      List.filter_eq_self.mpr fun c hc => (Bool.and_eq_true_iff.mp (h c hc)).2
    have htab : '\t' ∉ t := fun hmem => absurd (h _ hmem) (by decide)
    rw [label, hhead, fillTabs_eq_self htab]

/-- **A label without control characters** is shown as it is. -/
theorem label_eq_self {t : Text} (h : ∀ c ∈ t, isControl c = false) : label t = t :=
  label_eq_self_iff.mpr fun c hc => isShown_of_not_isControl (h c hc)

end Outline.Text
