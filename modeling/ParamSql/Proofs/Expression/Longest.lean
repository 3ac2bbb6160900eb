import ParamSql.Proofs.Expression.Completeness
import ParamSql.Proofs.Expression.Ending

/-!
# The longest expression is read

A reader that goes on where it can never leaves more of a longer text: what the end of a text cut
short, an identifier, the symbol of a comparison, the word of a folding, only becomes longer when
more text follows, and everything in front of it is read as before.

## Main definitions

* `Grammar.Reaches`: a reader reads at least what the rule admits as a whole text

## Main results

* `Grammar.reaches_leaf`, `Grammar.reaches_node`
-/

namespace ParamSql.Expression

namespace Grammar

section Reaching

variable {α : Type} {reader : Reader α} {rule : Rule α}

/-- Of a text shorter than the bound that begins with what the rule admits, the reader leaves no
more than what comes behind it. -/
def Reaches (bound : Nat) (reader : Reader α) (rule : Rule α) : Prop :=
  ∀ ⦃cs a more⦄, (cs ++ more).length < bound → rule cs a [] →
    ∃ b last, reader (cs ++ more) = some (b, last) ∧ last <:+ more

theorem Sound.suffix (h : Sound reader rule) (hlocal : ∀ a, Local (rule · a ·))
    {cs rest : List Char} {a : α} (hread : reader cs = some (a, rest)) : rest <:+ cs :=
  (hlocal a).suffix (h hread)

end Reaching

/-! ## Columns -/

section Columns

variable {cs : List Char} {p : Expression.Path}

theorem Ident.exists_longer {name : String} (h : Ident cs name []) (more : List Char) :
    ∃ longer last, Ident (cs ++ more) longer last ∧ last <:+ more := by
  cases h with
  | run start continues longest =>
  next c run =>
  have hrun : ∀ d ∈ run, isIdentRest d = true := List.all_eq_true.mp continues
  have hread : ident (c :: (run ++ more)) =
      some (String.ofList (c :: (run ++ more).takeWhile isIdentRest),
        more.dropWhile isIdentRest) := by
    rw [ident, if_pos start, List.dropWhile_append_of_pos hrun]
  rw [List.append_nil, List.cons_append]
  exact ⟨_, _, sound_ident hread, List.dropWhile_suffix _⟩

/-- Behind its first identifier a path may have a second one. -/
theorem Ident.exists_path {name : String} {rest : List Char} (h : Ident cs name rest) :
    ∃ p last, path cs = some (p, last) ∧ last <:+ rest := by
  rw [path, h.ident_eq]
  dsimp only
  split
  · next more =>
    split
    · next second last hsecond =>
      have hlast := sound_ident.suffix local_ident hsecond
      exact ⟨_, last, rfl, hlast.trans (List.suffix_cons ..)⟩
    · exact ⟨_, _, rfl, List.suffix_refl _⟩
  · exact ⟨_, _, rfl, List.suffix_refl _⟩

theorem Path.exists_longer (h : Path cs p []) (more : List Char) :
    ∃ longer last, path (cs ++ more) = some (longer, last) ∧ last <:+ more := by
  rcases h with h | ⟨ht, hn⟩
  · obtain ⟨longer, rest, hident, hrest⟩ := h.exists_longer more
    obtain ⟨q, last, hpath, hlast⟩ := hident.exists_path
    exact ⟨q, last, hpath, hlast.trans hrest⟩
  · next text table name =>
    obtain ⟨longer, last, hn, hlast⟩ := hn.exists_longer more
    have htable : Ident (cs ++ more) table ('.' :: (text ++ more)) :=
      (local_ident table).extend ht (List.cons_ne_nil _ _) more
    refine ⟨⟨some table, longer⟩, last, ?_, hlast⟩
    rw [path, htable.ident_eq]
    simp only [hn.ident_eq]

theorem not_mem_of_all_isIdentRest {run : List Char} (h : run.all isIdentRest = true) :
    '(' ∉ run := by
  intro hmem
  have hopen := List.all_eq_true.mp h _ hmem
  rw [isIdentRest_of_lt (by decide)] at hopen
  exact absurd hopen (by decide)

theorem Ident.not_mem_append {name : String} {rest : List Char} (h : Ident cs name rest)
    (hrest : '(' ∉ rest) : '(' ∉ cs := by
  obtain ⟨start, continues, -⟩ := h
  next c run =>
  have hrun : (c :: run).all isIdentRest = true := by
    rw [List.all_cons, isIdentRest_of_isIdentStart start, continues]
    rfl
  rw [← List.cons_append, List.mem_append]
  exact not_or.mpr ⟨not_mem_of_all_isIdentRest hrun, hrest⟩

/-- No parenthesis stands in a path. -/
theorem Path.not_mem (h : Path cs p []) : '(' ∉ cs := by
  rcases h with h | ⟨ht, hn⟩
  · exact h.not_mem_append List.not_mem_nil
  · refine ht.not_mem_append fun hmem => ?_
    rcases List.mem_cons.mp hmem with heq | hmem
    · exact absurd heq (by decide)
    · exact hn.not_mem_append List.not_mem_nil hmem

theorem suffix_of_not_mem {c : Char} {w more rest : List Char} (hcs : c ∉ cs)
    (h : cs ++ more = w ++ c :: rest) : c :: rest <:+ more := by
  rcases List.append_eq_append_iff.mp h with ⟨between, -, hmore⟩ | ⟨between, hw, hrest⟩
  · exact ⟨between, hmore.symm⟩
  · cases between with
    | nil => exact ⟨[], hrest⟩
    | cons d between =>
      obtain ⟨rfl, -⟩ := List.cons.inj hrest
      exact absurd (by simp [hw]) hcs

/-- What stands between parentheses behind a word is behind a path that has none. -/
theorem enclosed_suffix {opening closing : String} {w tail more last : List Char}
    (hw : opening.toList = w ++ '(' :: tail) (hcs : '(' ∉ cs) {q : Expression.Path}
    (h : enclosed opening.toList closing.toList (cs ++ more) = some (q, last)) :
    last <:+ more := by
  have henclosed := sound_enclosed opening closing h
  generalize htext : cs ++ more = text at henclosed
  obtain ⟨before, path, after⟩ := henclosed
  next inner _ _ =>
  have hlast : last <:+ inner := ((List.suffix_append ..).trans (local_blanks.suffix after)).trans
    (((local_path q).suffix path).trans (local_blanks.suffix before))
  rw [hw, List.append_assoc, List.cons_append] at htext
  have hopen := suffix_of_not_mem hcs htext
  exact (hlast.trans ((List.suffix_append tail inner).trans (List.suffix_cons ..))).trans hopen

theorem Enclosed.extend {opening closing : String} (h : Enclosed opening closing cs p [])
    (hc : closing.toList ≠ []) (more : List Char) :
    Enclosed opening closing (cs ++ more) p more := by
  obtain ⟨before, path, after⟩ := h
  have hinside := ((local_blanks.comp (local_path p)).comp local_blanks).extend
    ⟨_, ⟨_, before, path⟩, after⟩ (by simpa using hc) more
  obtain ⟨_, ⟨_, before, path⟩, after⟩ := hinside
  rw [List.append_nil] at after
  rw [List.append_assoc]
  exact .between before path after

theorem reaches_folded (bound : Nat) : Reaches bound folded Fold := by
  rintro cs l more - (h | h | h | h)
  · exact ⟨_, more, (h.extend (List.cons_ne_nil _ _) more).folded_both, List.suffix_refl _⟩
  · exact ⟨_, more, (h.extend (List.cons_ne_nil _ _) more).folded_lower, List.suffix_refl _⟩
  · exact ⟨_, more, (h.extend (List.cons_ne_nil _ _) more).folded_upper, List.suffix_refl _⟩
  · next p =>
    have hnot := h.not_mem
    obtain ⟨longer, last, hpath, hlast⟩ := h.exists_longer more
    -- The text behind may make a folding of what was a column called like one.
    rw [folded]
    split
    · next hboth =>
      exact ⟨_, _, rfl, enclosed_suffix (w := "upper".toList) rfl hnot hboth⟩
    · split
      · next hlower =>
        exact ⟨_, _, rfl, enclosed_suffix (w := "lower".toList) rfl hnot hlower⟩
      · split
        · next hupper =>
          exact ⟨_, _, rfl, enclosed_suffix (w := "upper".toList) rfl hnot hupper⟩
        · rw [hpath]
          exact ⟨_, last, rfl, hlast⟩

end Columns

/-! ## Leaves -/

section Leaves

variable {cs more rest : List Char}

theorem skipBlanks_suffix (cs : List Char) : skipBlanks cs <:+ cs := List.dropWhile_suffix _

theorem comparison_suffix (cs : List Char) : (comparison cs).2 <:+ cs :=
  (local_op _).suffix (sound_comparison cs)

theorem skipMark_suffix (cs : List Char) : skipMark cs <:+ cs :=
  local_mark.suffix (sound_skipMark cs)

/-- Blanks that something was left of are gone after skipping. -/
theorem Blanks.skipBlanks_suffix {text : List Char} (h : Blanks cs [])
    (ht : text <:+ cs ++ more) : skipBlanks text <:+ more := by
  obtain ⟨run, hrun, rfl⟩ := h
  rw [List.append_nil] at ht
  obtain ⟨before, hbefore⟩ := ht
  rcases List.append_eq_append_iff.mp hbefore with ⟨between, rfl, rfl⟩ | ⟨between, -, rfl⟩
  · rw [List.all_append, Bool.and_eq_true] at hrun
    have hblanks : Blanks (between ++ more) more := ⟨between, hrun.2, rfl⟩
    rw [hblanks.skipBlanks_eq]
    exact Grammar.skipBlanks_suffix more
  · exact (Grammar.skipBlanks_suffix text).trans (List.suffix_append ..)

/-- In front of more text the symbol of a comparison may only become longer. -/
theorem comparison_symbol_suffix (op : Comparison) (cs : List Char) :
    (comparison (skipBlanks (op.symbol.toList ++ cs))).2 <:+ cs := by
  have hsymbol : skipBlanks (op.symbol.toList ++ cs) = op.symbol.toList ++ cs := by
    cases op <;> rfl
  rw [hsymbol]
  cases op with
  | eq => exact List.suffix_refl _
  | ne => exact List.suffix_refl _
  | ge => exact List.suffix_refl _
  | le => exact List.suffix_refl _
  | gt | lt =>
    cases cs with
    | nil => exact List.suffix_refl _
    | cons c cs =>
      by_cases hc : c = '='
      · subst hc
        exact List.suffix_cons ..
      · simp [Comparison.symbol, comparison, hc]

/-- What is left behind the column, up to the end of a leaf, is read to the end of it. -/
theorem suffix_behind_fold {r₂ r₃ r₄ : List Char} {op : Comparison} (before : Blanks cs r₂)
    (symbol : Op r₂ op r₃) (after : Blanks r₃ r₄) (mark : Mark r₄ []) :
    skipMark (skipBlanks (comparison (skipBlanks (cs ++ more))).2) <:+ more := by
  have hbefore := (before.append more).skipBlanks_eq
  cases mark with
  | mark =>
    have hmark : Next ('?' :: afterLeaf) (r₃ ++ more) :=
      (after.append more).next_iff.mpr ((next_cons rfl).mpr (by decide))
    have hne : r₃ ≠ [] := by
      rintro rfl
      exact absurd after.length_le (by simp)
    obtain ⟨last, hlast, hblanks⟩ :=
      ((local_op op).extend symbol hne more).comparison_eq hmark
    rw [hbefore, hlast, ← hblanks.skipBlanks_eq, (after.append more).skipBlanks_eq]
    exact List.suffix_refl _
  | missing =>
    refine (skipMark_suffix _).trans ?_
    cases symbol with
    | symbol =>
      rw [hbefore, List.append_assoc]
      exact after.skipBlanks_suffix (comparison_symbol_suffix op (r₃ ++ more))
    | missing =>
      exact (before.trans after).skipBlanks_suffix
        ((comparison_suffix _).trans (skipBlanks_suffix _))

theorem reaches_leaf (bound : Nat) : Reaches bound leaf Leaf := by
  rintro cs _ more hbound ⟨fold, before, symbol, after, mark⟩
  next r₁ r₂ r₃ r₄ l op =>
  by_cases hr₁ : r₁ = []
  · subst hr₁
    obtain ⟨longer, last, hread, hlast⟩ := reaches_folded bound hbound fold
    rw [leaf, hread]
    refine ⟨_, _, rfl, ?_⟩
    exact ((skipMark_suffix _).trans (skipBlanks_suffix _)).trans
      (((comparison_suffix _).trans (skipBlanks_suffix _)).trans hlast)
  · -- something of the leaf follows its column, so the column is read as it is
    have hnext : Next afterFold r₁ :=
      before.next_iff.mpr (symbol.next (after.next_iff.mpr (mark.next (next_nil _))))
    have hne : ∀ c, isBlank c = false → c ∉ afterFold → ∀ text, r₁ ++ more ≠ c :: text := by
      intro c hb hc text htext
      obtain ⟨d, r, rfl⟩ := List.exists_cons_of_ne_nil hr₁
      obtain ⟨rfl, -⟩ := List.cons.inj htext
      exact hnext.ne_cons hb hc r rfl
    have hread := ((local_fold l).extend fold hr₁ more).folded_eq (hne '(' rfl (by decide))
      (hne '.' rfl (by decide))
    rw [leaf, hread]
    exact ⟨_, _, rfl, suffix_behind_fold before symbol after mark⟩

end Leaves

/-! ## Nodes -/

section Nodes

theorem reaches_group {reader : Reader Predicate} {rule : Rule Predicate} {bound : Nat}
    (h : Complete bound reader rule afterNode) (hrule : Solid rule)
    (hlocal : ∀ p, Local (rule · p ·)) : Reaches (bound + 1) (group reader) (Group rule) := by
  rintro _ _ more hbound (⟨before, first, others, after⟩ | hleaf)
  · next inner _ _ _ p ps =>
    obtain ⟨_, ⟨_, ⟨_, before, first⟩, others⟩, after⟩ := (local_inside hlocal (p :: ps)).extend
      ⟨_, ⟨_, ⟨_, before, first⟩, others⟩, after⟩ (List.cons_ne_nil _ _) more
    rw [List.cons_append, List.length_cons] at hbound
    have hread := h.parenthesised hrule (by omega) before first others after
    refine ⟨p :: ps, more, ?_, List.suffix_refl more⟩
    rw [List.cons_append, group, hread]
    rfl
  · next cs l =>
    obtain ⟨longer, last, hread, hlast⟩ := reaches_leaf _ hbound hleaf
    refine ⟨[⟨longer, [], []⟩], last, ?_, hlast⟩
    rw [group, parenthesised_eq_none hread, hread]

section Sequences

variable {α : Type} {reader : Reader α} {rule : Rule α} {bound : Nat} {mark : Char}
  {more text : List Char}

theorem Sound.many_suffix (h : Sound reader rule) (hlocal : ∀ a, Local (rule · a ·)) (mark : Char)
    (n : Nat) (text : List Char) :
    (Reader.upTo (Expression.behind [mark] reader) n text).2 <:+ text :=
  (local_star (local_behind hlocal mark) _).suffix ((h.behind mark).upTo n text)

/-- A sequence that is not empty begins with its symbol. -/
theorem Star.next_append {cs rest : List Char} {as : List α} (hm : isBlank mark = false)
    (h : Star (Behind mark rule) cs as rest) (hne : cs ≠ rest) (more : List Char) :
    Next [mark] (cs ++ more) := by
  cases h with
  | nil => exact absurd rfl hne
  | cons head _ =>
    obtain ⟨before, -, -⟩ := head
    exact (before.append more).next_iff.mpr ((next_cons hm).mpr (List.mem_singleton_self mark))

/-- What begins with no blank does not come to do so in front of more text. -/
theorem skipBlanks_append {cs rest : List Char} (h : skipBlanks cs = cs)
    (hshorter : rest.length < cs.length) (more : List Char) :
    skipBlanks (cs ++ more) = cs ++ more := by
  cases cs with
  | nil => cases hshorter
  | cons c cs =>
    have hc : isBlank c = false := by
      rw [← Bool.not_eq_true]
      intro hblank
      rw [skipBlanks, List.dropWhile_cons, if_pos hblank] at h
      have hlength := (List.dropWhile_suffix isBlank (l := cs)).length_le
      rw [h, List.length_cons] at hlength
      omega
    exact skipBlanks_cons hc _

/-- **A sequence is read as far as it goes**, if each of its items but the last is read as it is
and the last one at least.  The induction is on the sequence; the text may miss blanks in front. -/
theorem Reaches.many {between : List Char} (h : Reaches bound reader rule)
    (hcomplete : Complete bound reader rule between) (hsound : Sound reader rule)
    (hrule : Solid rule) (hlocal : ∀ a, Local (rule · a ·)) (hm : isBlank mark = false)
    (hbetween : mark ∈ between) {cs rest : List Char} {as : List α}
    (hs : Star (Behind mark rule) cs as rest) (hrest : rest = [])
    (hcs : (cs ++ more).length ≤ bound) (ht : Blanks (cs ++ more) text) :
    (Reader.many (behind [mark] reader) text).2 <:+ more := by
  suffices hupTo : ∀ n, text.length ≤ n →
      (Reader.upTo (behind [mark] reader) n text).2 <:+ more from
    hupTo text.length (Nat.le_refl _)
  induction hs generalizing text with
  | nil cs =>
    subst hrest
    intro n _
    exact (hsound.many_suffix hlocal mark n text).trans (local_blanks.suffix ht)
  | cons head tail ih =>
    next cs mid rest a as =>
    intro n hn
    rcases head with ⟨before, after, hitem⟩
    next inner item =>
    have htext : (skipBlanks text).length = (inner ++ more).length + 1 := by
      rw [← ht.skipBlanks_eq, (before.append more).skipBlanks_eq, List.cons_append,
        skipBlanks_cons hm, List.length_cons]
    have hlength := (blanks_skipBlanks text).length_le
    have hcslength := (before.append more).length_le
    have hitemlength := (after.append more).length_le
    have hmidlength : (mid ++ more).length < (item ++ more).length := by
      simpa using hrule.shorter hitem
    rw [List.cons_append, List.length_cons] at hcslength
    obtain ⟨n, rfl⟩ : ∃ m, n = m + 1 := ⟨n - 1, by omega⟩
    have htight := skipBlanks_append (hrule.tight hitem) (hrule.shorter hitem) more
    by_cases hmid : mid = []
    · subst hmid
      obtain ⟨b, last, hread, hlast⟩ : ∃ b last, reader (item ++ more) = some (b, last) ∧
          last <:+ more := h (by omega) hitem
      rw [Reader.upTo, behind_eq_some hm (before.append more) (after.append more) htight hread ht]
      exact (hsound.many_suffix hlocal mark n last).trans hlast
    · have hnext : Next between (mid ++ more) :=
        (tail.next_append hm (by rwa [hrest]) more).mono (by simpa using hbetween)
      obtain ⟨last, hread, hlast⟩ := hcomplete (by omega) ((hlocal a).extend hitem hmid more) hnext
      have hshorter := (hsound.suffix hlocal hread).length_le
      rw [Reader.upTo, behind_eq_some hm (before.append more) (after.append more) htight hread ht]
      exact ih hrest (by omega) hlast n (by omega)

end Sequences

/-- **A node is read as far as it goes**: of a text that begins with a node, no more is left than
what comes behind it. -/
theorem reaches_node (bound : Nat) : Reaches bound (node bound) Node := by
  rintro cs _ more hbound ⟨leaf, conjuncts, disjuncts⟩
  next r₁ r₂ l ands ors =>
  obtain ⟨bound, rfl⟩ : ∃ m, bound = m + 1 := ⟨bound - 1, by omega⟩
  have hcomplete := (complete_node bound).group solid_node
  have hreaches := reaches_group (complete_node bound) solid_node local_node
  have hsound := (sound_node bound).group
  have hlocal := local_group local_node
  have hsuffix : ∀ mark text,
      (Reader.many (behind [mark] (group (node bound))) text).2 <:+ text :=
    fun mark text => hsound.many_suffix hlocal mark _ text
  have hnode : ∀ {text l last}, Expression.leaf text = some (l, last) →
      ∃ p, node (bound + 1) text = some (p, (Reader.many (behind ['|'] (group (node bound)))
        (Reader.many (behind ['&'] (group (node bound))) last).2).2) := by
    intro text l last h
    simp only [node, h]
    exact ⟨_, rfl⟩
  have hr₁length : (r₁ ++ more).length < (cs ++ more).length := by
    simpa using solid_leaf.shorter leaf
  have hr₂length : (r₂ ++ more).length ≤ (r₁ ++ more).length := by
    simpa using solid_node.group.star conjuncts
  by_cases hr₁ : r₁ = []
  · -- the leaf is the last part of the node
    subst hr₁
    obtain ⟨longer, last, hread, hlast⟩ := reaches_leaf _ hbound leaf
    obtain ⟨p, hp⟩ := hnode hread
    exact ⟨p, _, hp, ((hsuffix '|' _).trans (hsuffix '&' last)).trans hlast⟩
  have hleaf := (local_leaf l).extend leaf hr₁ more
  by_cases hr₂ : r₂ = []
  · -- a conjunct is the last part
    have h₁ := conjuncts.next_append rfl (by rwa [hr₂]) more
    obtain ⟨last₁, hread, hlast₁⟩ := complete_leaf _ hbound hleaf (h₁.mono (by decide))
    obtain ⟨p, hp⟩ := hnode hread
    have hlast := hreaches.many hcomplete hsound solid_node.group hlocal rfl (by decide) conjuncts
      hr₂ (by omega) hlast₁
    exact ⟨p, _, hp, (hsuffix '|' _).trans hlast⟩
  · -- a disjunct is the last part, and all conjuncts are read as they are
    have hconjuncts := (local_star (local_behind hlocal '&') ands).extend conjuncts hr₂ more
    have h₂ : Next ('|' :: afterNode) (r₂ ++ more) :=
      (disjuncts.next_append rfl hr₂ more).mono (by decide)
    have h₁ : Next afterLeaf (r₁ ++ more) := hconjuncts.next rfl h₂
    obtain ⟨last₁, hread, hlast₁⟩ := complete_leaf _ hbound hleaf h₁
    obtain ⟨last₂, hands, hlast₂⟩ := hcomplete.many solid_node.group rfl (List.Subset.refl _)
      (by decide) hconjuncts (by omega) h₂ hlast₁
    obtain ⟨p, hp⟩ := hnode hread
    rw [hands] at hp
    exact ⟨p, _, hp, hreaches.many hcomplete hsound solid_node.group hlocal rfl (by decide)
      disjuncts rfl (by omega) hlast₂⟩

end Nodes

end Grammar

end ParamSql.Expression
