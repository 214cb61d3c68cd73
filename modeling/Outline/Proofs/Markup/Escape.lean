import Outline.Markup.Escape
import Outline.Proofs.Text.Basic
import Outline.Reference.Decoding

/-!
# Escaping and decoding

Escaped text refers to the characters that it may not hold, and decoding resolves these references,
whatever stands behind them.  So escaping loses nothing.

* `Markup.Resolved`: references that decoding resolves.
* `Markup.decode_escape`: decoding undoes escaping.
* `Markup.escapeText_injective`, `Markup.escapeValue_injective`: a text can be told from what is
  written for it.
-/

namespace Outline

namespace Reference

variable {u rest : Text}

theorem decodeFrom_append (u rest : Text) :
    decodeFrom u.length (u ++ rest) = decodeFrom 0 rest := by
  induction u with
  | nil => rfl
  | cons c u ih => exact ih

theorem decode_reference {t : Text} (h : read (u ++ rest) = .ok (some (t, u.length))) :
    decode ('&' :: (u ++ rest)) = (decode rest).map (t ++ ·) := by
  rw [decode, decodeFrom, if_pos rfl, h]
  exact congrArg (Except.map (t ++ ·)) (decodeFrom_append u rest)

theorem decode_cons {c : Char} (hc : c ≠ '&') (t : Text) :
    decode (c :: t) = (decode t).map (c :: ·) := by
  rw [decode, decodeFrom, if_neg hc]
  rfl

theorem read_name {name t : Text} (hchars : name.all isNameChar = true) (hne : name ≠ [])
    (hlength : name.length ≤ nameLimit) (hlookup : lookup (name ++ [';']) = some t) (rest : Text) :
    read (name ++ [';'] ++ rest) = .ok (some (t, (name ++ [';']).length)) := by
  have htext : name ++ [';'] ++ rest = name ++ ';' :: rest := List.append_cons name ';' rest ▸ rfl
  have hrun : ((name ++ ';' :: rest).takeWhile isNameChar).take nameLimit = name := by
    rw [Text.takeWhile_append (List.all_eq_true.mp hchars) (by rintro c ⟨⟩; decide),
      List.take_of_length_le hlength]
  have hread : readName (name ++ ';' :: rest) = some (t, (name ++ [';']).length) := by
    have htake : (name ++ ';' :: rest).take (name.length + 1) = name ++ [';'] := by
      rw [← htext]
      exact List.take_left' (List.length_append ..)
    rw [readName, hrun, if_neg hne, List.drop_left]
    simp only [semicolon, htake, ofName, hlookup]
  rw [htext, ← hread]
  cases name with
  | nil => exact absurd rfl hne
  | cons c name =>
    have hc : c ≠ '#' := by
      rintro rfl
      exact absurd (List.all_eq_true.mp hchars '#' List.mem_cons_self) (by decide)
    rw [List.cons_append, read]
    exact fun _ h => hc (List.head_eq_of_cons_eq h)

end Reference

namespace Markup

open Reference

/-! ### References that are resolved -/

/-- **References that decoding resolves.**  Ampersands are referred to, so that nothing else in an
escaped text looks like a reference. -/
structure Resolved (reference : Char → Option Text) : Prop where
  ampersand : reference '&' ≠ none
  reads : ∀ {c u}, reference c = some u →
    ∃ v, u = '&' :: v ∧ ∀ rest, read (v ++ rest) = .ok (some ([c], v.length))

theorem resolved_textReference : Resolved textReference where
  ampersand := by decide
  reads {c u} h := by
    rw [textReference] at h
    split_ifs at h with hamp hless hgreater <;> subst c <;> obtain rfl := Option.some.inj h
    · exact ⟨['a', 'm', 'p'] ++ [';'], rfl, read_name (by decide) (by decide) (by decide)
        (by decide +kernel)⟩
    · exact ⟨['l', 't'] ++ [';'], rfl, read_name (by decide) (by decide) (by decide)
        (by decide +kernel)⟩
    · exact ⟨['g', 't'] ++ [';'], rfl, read_name (by decide) (by decide) (by decide)
        (by decide +kernel)⟩

theorem resolved_valueReference : Resolved valueReference where
  ampersand := by decide
  reads {c u} h := by
    rw [valueReference] at h
    split_ifs at h with hdouble hsingle
    · subst c
      obtain rfl := Option.some.inj h
      exact ⟨['q', 'u', 'o', 't'] ++ [';'], rfl, read_name (by decide) (by decide) (by decide)
        (by decide +kernel)⟩
    · subst c
      obtain rfl := Option.some.inj h
      exact ⟨['#', 'x', '2', '7', ';'], rfl, fun _ => rfl⟩
    · exact resolved_textReference.reads h

/-! ### Escaping undone -/

variable {reference : Char → Option Text}

theorem escape_cons (reference : Char → Option Text) (c : Char) (t : Text) :
    escape reference (c :: t) = (reference c).getD [c] ++ escape reference t := rfl

theorem escape_append (reference : Char → Option Text) (t u : Text) :
    escape reference (t ++ u) = escape reference t ++ escape reference u := List.flatMap_append

/-- **Decoding undoes escaping.** -/
theorem decode_escape (h : Resolved reference) (t : Text) :
    decode (escape reference t) = .ok t := by
  induction t with
  | nil => rfl
  | cons c t ih =>
    rw [escape_cons]
    cases hc : reference c with
    | none =>
      have hne : c ≠ '&' := fun heq => h.ampersand (heq ▸ hc)
      rw [Option.getD_none, List.singleton_append, decode_cons hne, ih]
      rfl
    | some u =>
      obtain ⟨v, rfl, hread⟩ := h.reads hc
      rw [Option.getD_some, List.cons_append, decode_reference (hread _), ih]
      rfl

theorem escape_injective (h : Resolved reference) : Function.Injective (escape reference) := by
  intro t u heq
  have hdecode := decode_escape h t
  rw [heq, decode_escape h u] at hdecode
  exact (Except.ok.inj hdecode).symm

theorem escapeText_injective : Function.Injective escapeText :=
  escape_injective resolved_textReference

theorem escapeValue_injective : Function.Injective escapeValue :=
  escape_injective resolved_valueReference

/-! ### Characters that are not in an escaped text -/

theorem not_mem_escape {d : Char} (hd : reference d ≠ none)
    (href : ∀ c u, reference c = some u → d ∉ u) (t : Text) : d ∉ escape reference t := by
  intro hmem
  obtain ⟨c, -, hdc⟩ := List.mem_flatMap.mp hmem
  cases hc : reference c with
  | none =>
    rw [hc, Option.getD_none, List.mem_singleton] at hdc
    exact hd (hdc ▸ hc)
  | some u =>
    rw [hc, Option.getD_some] at hdc
    exact href c u hc hdc

theorem not_mem_textReference {d : Char} (hd : d = '<' ∨ d = '>' ∨ d = '"') (c : Char) (u : Text)
    (h : textReference c = some u) : d ∉ u := by
  rw [textReference] at h
  split_ifs at h <;> obtain rfl := Option.some.inj h <;> rcases hd with rfl | rfl | rfl <;> decide

theorem not_mem_valueReference {d : Char} (hd : d = '<' ∨ d = '>' ∨ d = '"') (c : Char) (u : Text)
    (h : valueReference c = some u) : d ∉ u := by
  rw [valueReference] at h
  split_ifs at h
  · obtain rfl := Option.some.inj h
    rcases hd with rfl | rfl | rfl <;> decide
  · obtain rfl := Option.some.inj h
    rcases hd with rfl | rfl | rfl <;> decide
  · exact not_mem_textReference hd c u h

theorem not_mem_escapeText (t : Text) : '<' ∉ escapeText t :=
  not_mem_escape (by decide) (not_mem_textReference (.inl rfl)) t

theorem not_mem_escapeValue {d : Char} (hd : d = '>' ∨ d = '"') (t : Text) :
    d ∉ escapeValue t :=
  not_mem_escape (by rcases hd with rfl | rfl <;> decide) (not_mem_valueReference (.inr hd)) t

end Markup

end Outline
