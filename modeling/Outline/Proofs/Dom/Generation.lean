import Outline.Dom.Generation
import Outline.Proofs.Dom.Building
import Outline.Proofs.Template.Concatenation
import Outline.Proofs.Template.RoundTrip

/-!
# Generating from two templates

Two templates are generated into one container.  When the second starts at the top, it is all the
same whether they are put together first, or generated one after the other, unless the second one
is refused for its content: then the first leaves its elements in the container, and the two
together leave nothing.

* `Reference.decode_of_overlong`: a reference with too many digits refuses a text.
* `Dom.Store.generate_append`: two templates put together.
* `Dom.Store.not_generated_append_of_overlong`: why both have to be generated.
-/

namespace Outline

/-! ### Content that is refused -/

/-- **A reference with too many digits refuses the text.** -/
theorem Reference.decode_of_overlong {digits rest : Text}
    (hdigits : ∀ c ∈ digits, c.isDigit = true) (hrest : ∀ c ∈ rest.head?, c.isDigit = false)
    (hlen : Text.digitLimit < digits.length) :
    decode ('&' :: '#' :: (digits ++ rest)) = .error ⟨digits.length⟩ := by
  have hread : read ('#' :: (digits ++ rest)) = .error ⟨digits.length⟩ := by
    have hne : digits ≠ [] := List.ne_nil_of_length_pos (by omega)
    rw [read, readNumber, Text.takeWhile_append hdigits hrest]
    simp only [if_neg hne, if_pos hlen]
    rfl
  rw [decode, decodeFrom, if_pos rfl, hread]

theorem Reference.decode_of_replicate {n : Nat} (hn : Text.digitLimit < n) :
    decode ('&' :: '#' :: (List.replicate n '1' ++ [';'])) = .error ⟨n⟩ := by
  have hdigits : ∀ c ∈ List.replicate n '1', c.isDigit = true := by
    intro c hc
    rw [List.eq_of_mem_replicate hc]
    decide
  have hrest : ∀ c ∈ [';'].head?, c.isDigit = false := by
    intro c hc
    rw [← Option.some.inj hc]
    decide
  have hlen : (List.replicate n '1').length = n := List.length_replicate
  rw [decode_of_overlong hdigits hrest (by omega), hlen]

theorem Reference.inline_of_replicate (n : Nat) :
    ∀ x ∈ '&' :: '#' :: (List.replicate n '1' ++ [';']),
      Text.isBreak x = false ∧ x ≠ '(' ∧ x ≠ ')' := by
  intro x hx
  simp only [List.mem_cons, List.mem_append, List.not_mem_nil, or_false] at hx
  rcases hx with rfl | rfl | hx | rfl
  · decide
  · decide
  · rw [List.eq_of_mem_replicate hx]
    decide
  · decide

def Node.ofContent (tag : Char) (c : Text) : Node :=
  ⟨[tag], [], none, some c, [], [], List.cons_ne_nil _ _⟩

theorem Node.source_ofContent (sep tag : Char) (c : Text) :
    (Node.ofContent tag c).source [sep] = tag :: '(' :: (c ++ [')']) := by
  simp [Node.ofContent, Node.source, Node.classSource, Node.idSource, Node.contentSource,
    Node.attributeSource, Node.eventSource]

theorem Node.printable_ofContent {tag : Char} {c : Text} (htag : Text.isWord tag = true ∧ tag ≠ '>')
    (hc : ∀ x ∈ c, Text.isBreak x = false ∧ x ≠ '(' ∧ x ≠ ')') :
    (Node.ofContent tag c).Printable {} := by
  have hopen : '(' ∉ c := fun h => (hc _ h).2.1 rfl
  have hclose : ')' ∉ c := fun h => (hc _ h).2.2 rfl
  refine ⟨⟨⟨fun x hx => ?_, nofun, nofun, nofun, nofun⟩, fun d hd => ?_, ?_⟩, fun h => ?_, ?_⟩
  · rw [List.mem_singleton.mp hx]
    exact htag.1
  · obtain rfl := Option.some.inj hd
    refine ⟨Group.within_of_not_mem hclose, ?_⟩
    rw [List.count_eq_zero.mpr hopen, List.count_eq_zero.mpr hclose]
  · rw [Node.listing_eq_nil rfl]
    exact ⟨Group.within_nil, rfl⟩
  · exact htag.2 (Option.some.inj h)
  · rw [Node.source_ofContent]
    intro x hx
    simp only [List.mem_cons, List.mem_append, List.not_mem_nil, or_false] at hx
    rcases hx with rfl | rfl | hx | rfl
    · exact Text.isBreak_eq_false_of_visible (Text.isBlank_eq_false_of_isWord htag.1)
    · decide
    · exact (hc x hx).1
    · decide

namespace Dom.Store

open Template Building

variable {settings : Settings} {registry : Registry} {s : Store} {r : Ref} {t u : Text}
  {f g : Forest}

/-! ### Generating in steps -/

/-- **Generating into a container is compiling, building and mounting.** -/
theorem generate_eq (settings : Settings) (registry : Registry) (s : Store) (template : Text)
    (r : Ref) :
    (s.generate settings registry template (some r)).2 =
      ((compile settings template).2.mapError Generation.Refusal.template).bind fun f =>
        ((s.build (Means.of settings registry) f).mapError Generation.Refusal.content).map
          fun p => (p.1.mount r p.2, ⟨r, p.2⟩) := by
  rw [generate]
  rcases compile settings template with ⟨notices, e | f⟩
  · rfl
  · simp only [withContainer]
    cases hbuild : s.build (Means.of settings registry) f <;>
      simp only [Except.mapError, Except.map, Except.bind, hbuild]

theorem generate_of_compile (hf : (compile settings t).2 = .ok f) (s : Store)
    (registry : Registry) (r : Ref) :
    (s.generate settings registry t (some r)).2 =
      ((s.build (Means.of settings registry) f).mapError Generation.Refusal.content).map
        fun p => (p.1.mount r p.2, ⟨r, p.2⟩) := by
  rw [generate_eq, hf]
  rfl

/-- **Two templates that are compiled side by side** are generated one after the other. -/
theorem generate_append_of_compile (h : StartsAtTop settings u)
    (hf : (compile settings t).2 = .ok f) (hg : (compile settings u).2 = .ok g) (s : Store)
    (registry : Registry) (hr : r < s.next) :
    (s.generate settings registry (t ++ '\n' :: u) (some r)).2 =
      (s.generate settings registry t (some r)).2.bind fun p =>
        (p.1.generate settings registry u (some r)).2.map fun q =>
          (q.1, ⟨r, p.2.roots ++ q.2.roots⟩) := by
  have hfg : (compile settings (t ++ '\n' :: u)).2 =
      .ok (f ++ g.map (Tree.map (Item.shift (Line.taken t)))) := by
    rw [compile_append h t, hf, hg]
    rfl
  have hnode : ∀ i : Item, (i.shift (Line.taken t)).node = i.node := fun _ => rfl
  rw [generate_of_compile hfg, generate_of_compile hf, build_append]
  cases hbuild : s.build (Means.of settings registry) f with
  | error o => rfl
  | ok p =>
    obtain ⟨hle, hroots⟩ := next_of_build hbuild
    have hr : r < p.1.next := Nat.lt_of_lt_of_le hr hle
    simp only [Except.bind, Except.map, Except.mapError, generate_of_compile hg,
      build_map _ _ hnode, build_mount hr hroots]
    cases p.1.build (Means.of settings registry) g with
    | error o => rfl
    | ok q => simp only [mount_append]

/-- What is left of a store after generating into a container: the old store when the template is
refused. -/
def generated (s : Store) (settings : Settings) (registry : Registry) (template : Text) (r : Ref) :
    Store :=
  match (s.generate settings registry template (some r)).2 with
  | .ok p => p.1
  | .error _ => s

theorem generated_of_ok {p : Store × Generated}
    (h : (s.generate settings registry t (some r)).2 = .ok p) :
    s.generated settings registry t r = p.1 := by
  rw [generated, h]

theorem generated_of_error {e : Generation.Refusal}
    (h : (s.generate settings registry t (some r)).2 = .error e) :
    s.generated settings registry t r = s := by
  rw [generated, h]

/-- **Templates put together.**  When the second starts at the top, the two compile exactly when
each does, to one forest behind the other; the first that is refused refuses both.  Then generating
both comes to the same as generating one after the other, with the same refusals for content, and
what is generated looks the same. -/
theorem generate_append (h : StartsAtTop settings u) (t : Text) :
    (compile settings (t ++ '\n' :: u)).2 =
      ((compile settings t).2.bind fun f =>
        ((compile settings u).2.mapError (Refusal.shift (Line.taken t))).map fun g =>
          f ++ g.map (Tree.map (Item.shift (Line.taken t)))) ∧
    ∀ f g, (compile settings t).2 = .ok f → (compile settings u).2 = .ok g →
      ∀ (s : Store) (registry : Registry) (r : Ref), r < s.next →
        (s.generate settings registry (t ++ '\n' :: u) (some r)).2 =
          ((s.generate settings registry t (some r)).2.bind fun p =>
            (p.1.generate settings registry u (some r)).2.map fun q =>
              (q.1, ⟨r, p.2.roots ++ q.2.roots⟩)) ∧
        ∀ w, (s.generate settings registry (t ++ '\n' :: u) (some r)).2 = .ok w →
          let later := (s.generated settings registry t r).generated settings registry u r
          Markup.htmlAll (w.1.contents r) = Markup.htmlAll (later.contents r) ∧
            Markup.textContentAll (w.1.contents r) =
              Markup.textContentAll (later.contents r) := by
  refine ⟨compile_append h t, fun f g hf hg s registry r hr => ?_⟩
  have hboth := generate_append_of_compile h hf hg s registry hr
  refine ⟨hboth, fun w hw => ?_⟩
  rw [hw] at hboth
  cases hp : (s.generate settings registry t (some r)).2 with
  | error e =>
    rw [hp] at hboth
    exact absurd hboth nofun
  | ok p =>
    cases hq : (p.1.generate settings registry u (some r)).2 with
    | error e =>
      rw [hp, Except.bind, hq] at hboth
      exact absurd hboth nofun
    | ok q =>
      rw [hp, Except.bind, hq] at hboth
      obtain rfl := Except.ok.inj hboth
      rw [generated_of_ok hp, generated_of_ok hq]
      exact ⟨rfl, rfl⟩

/-- A carriage return before the line feed is one break with it, and a blank line follows. -/
theorem generate_append_of_carriage_return :
    let s : Store := ⟨[{ tag := ['d'] }]⟩
    let t : Text := ['a', '\r']
    let u : Text := ['\n', 'b', '(', 'c', ')', '\n', '>', 'd']
    StartsAtTop {} u ∧
      ∃ w, (s.generate {} {} (t ++ '\n' :: u) (some 0)).2 = .ok (w, ⟨0, [1, 2]⟩) ∧
        Markup.htmlAll (w.contents 0) = "<a></a><b>c<d></d></b>".toList := by
  intro s t u
  have htop : StartsAtTop {} u := by decide
  let item (tag : Char) (line : Int) (content : Option Text) : Item :=
    ⟨⟨[tag], [], none, content, [], [], List.cons_ne_nil _ _⟩, some line⟩
  have hfirst : (compile {} t).2 = .ok [.node (item 'a' 1 none) []] := rfl
  have hsecond : (compile {} u).2 =
      .ok [.node (item 'b' 2 (some ['c'])) [.node (item 'd' 3 none) []]] := rfl
  obtain ⟨-, hgenerate⟩ := generate_append htop t
  obtain ⟨hboth, -⟩ := hgenerate _ _ hfirst hsecond s {} 0 (by decide)
  let w : Store := ⟨[
    { tag := ['d'], children := [.element 1, .element 2] },
    { tag := ['a'], parent := some 0 },
    { tag := ['b'], children := [.text ['c'], .element 3], parent := some 0 },
    { tag := ['d'], parent := some 2 }]⟩
  have hparts : ((s.generate {} {} t (some 0)).2.bind fun p =>
      (p.1.generate {} {} u (some 0)).2.map fun q =>
        (q.1, (⟨0, p.2.roots ++ q.2.roots⟩ : Generated))) = .ok (w, ⟨0, [1, 2]⟩) := rfl
  exact ⟨htop, w, hboth.trans hparts, by decide⟩

/-! ### Refused content -/

theorem generate_of_check {o : Reference.Overlong} (hf : (compile settings t).2 = .ok f)
    (ho : check (Means.of settings registry) f = .error o) (s : Store) (r : Ref) :
    (s.generate settings registry t (some r)).2 = .error (.content o) := by
  rw [generate_of_compile hf, build_eq, ho]
  rfl

/-- **A line with a tag and content is compiled to one node**, which starts at depth zero. -/
theorem compile_of_content (tag : Char) {c : Text} (htag : Text.isWord tag = true ∧ tag ≠ '>')
    (hc : ∀ x ∈ c, Text.isBreak x = false ∧ x ≠ '(' ∧ x ≠ ')') :
    StartsAtTop {} (tag :: '(' :: (c ++ [')'])) ∧
      ∃ f, (compile {} (tag :: '(' :: (c ++ [')']))).2 = .ok f ∧
        (Tree.walkAll f).map Item.node = [Node.ofContent tag c] := by
  have hprint : print {} [.node (Node.ofContent tag c) []] = tag :: '(' :: (c ++ [')']) :=
    List.intercalate_singleton.trans (Node.source_ofContent ';' tag c)
  have hprintable : ∀ n ∈ Tree.walkAll [Tree.node (Node.ofContent tag c) []],
      n.Printable {} := by
    intro n hn
    obtain rfl : n = Node.ofContent tag c := by simpa [Tree.walkAll, Tree.walk] using hn
    exact Node.printable_ofContent htag hc
  obtain ⟨hlines, -, -⟩ := readLines_eq_ok_iff.mp (readLines_print hprintable)
  obtain ⟨f, hf, hnodes⟩ := compile_print hprintable
  rw [hprint] at hlines hf
  refine ⟨startsAtTop_iff.mpr fun l hl => ?_, f, by rw [hf], ?_⟩
  · have hentries : (printedEntries {} [.node (Node.ofContent tag c) []]).map Entry.line =
        [⟨(Node.ofContent tag c).source [';'], 0, 1⟩] := rfl
    rw [← hlines, hentries] at hl
    rw [← Option.some.inj hl]
  · rw [← Tree.walkAll_map, hnodes]
    rfl

theorem content_of_content {tag : Char} {c : Text} {o : Reference.Overlong}
    (ho : Reference.decode c = .error o) :
    (Means.of {} registry).content (Node.ofContent tag c) = .error o := by
  cases c with
  | nil => exact absurd ho nofun
  | cons x c => exact congrArg (Except.map some) ho

theorem check_of_content {tag : Char} {c : Text} {o : Reference.Overlong}
    (hf : (Tree.walkAll f).map Item.node = [Node.ofContent tag c])
    (ho : Reference.decode c = .error o) : check (Means.of {} registry) f = .error o := by
  rw [check_eq, hf, List.forM_eq_forM, List.forM_cons, content_of_content ho]
  rfl

/-- **Both templates have to be generated**: when the second is refused for its content, the first
leaves its elements in the container, but the two together leave nothing. -/
theorem not_generated_append_of_overlong :
    let s : Store := ⟨[{ tag := ['d'] }]⟩
    let t : Text := ['p']
    let u : Text := 'q' :: '(' :: ('&' :: '#' :: (List.replicate 4301 '1' ++ [';']) ++ [')'])
    StartsAtTop {} u ∧
      (∃ f, (compile {} t).2 = .ok f) ∧ (∃ g, (compile {} u).2 = .ok g) ∧
      Markup.htmlAll ((s.generated {} {} (t ++ '\n' :: u) 0).contents 0) ≠
        Markup.htmlAll (((s.generated {} {} t 0).generated {} {} u 0).contents 0) := by
  intro s t u
  have hdecode : Reference.decode ('&' :: '#' :: (List.replicate 4301 '1' ++ [';'])) =
      .error ⟨4301⟩ := Reference.decode_of_replicate (by decide)
  obtain ⟨htop, g, hg, hnodes⟩ :=
    compile_of_content 'q' (by decide) (Reference.inline_of_replicate 4301)
  let f : Forest := [.node ⟨⟨['p'], [], none, none, [], [], List.cons_ne_nil _ _⟩, some 1⟩ []]
  have hf : (compile {} t).2 = .ok f := rfl
  let s' : Store :=
    ⟨[{ tag := ['d'], children := [.element 1] }, { tag := ['p'], parent := some 0 }]⟩
  have hfirst : (s.generate {} {} t (some 0)).2 = .ok (s', ⟨0, [1]⟩) := rfl
  have hsecond : (s'.generate {} {} u (some 0)).2 = .error (.content ⟨4301⟩) :=
    generate_of_check hg (check_of_content hnodes hdecode) s' 0
  have hboth : (s.generate {} {} (t ++ '\n' :: u) (some 0)).2 = .error (.content ⟨4301⟩) := by
    rw [generate_append_of_compile htop hf hg s {} (by decide), hfirst, Except.bind, hsecond]
    rfl
  refine ⟨htop, ⟨f, hf⟩, ⟨g, hg⟩, ?_⟩
  rw [generated_of_error hboth, generated_of_ok hfirst, generated_of_error hsecond]
  decide

end Dom.Store

end Outline
