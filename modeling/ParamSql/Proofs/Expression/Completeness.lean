import ParamSql.Proofs.Expression.Soundness
import ParamSql.Proofs.Tree

/-!
# Every expression of the grammar is read

The readers choose the first alternative that fits and take as much as they can.  Neither loses
a derivation, and that is due to what may follow: behind a column, a leaf and a node the grammar
leaves only few characters, none of which goes on with what was read.  A column called `lower`,
say, never has a parenthesis behind it.  What a derivation and a reader leave may still differ,
as a reader skips the blanks behind a leaf that a derivation may leave where they are.  So a
reader is compared with a rule up to blanks, and a text is judged by what comes behind its
blanks.

## Main definitions

* `Grammar.Next`: what may come first behind the blanks of a text
* `Grammar.Complete`: what a rule admits, a reader reads, up to blanks behind it

## Main results

* `Grammar.Complete.many`: a sequence is read by reading as often as possible
* `Grammar.complete_node`: what is a node is read as a node
* `parseTrimmed_eq_ok_iff`: a text is read as a predicate exactly when it denotes that predicate
* `parse_eq_ok_iff_derives`: the same of texts with white space around them, and no text denotes
  two predicates
-/

namespace ParamSql.Expression

namespace Grammar

/-! ## What follows -/

section Next

variable {allowed more cs rest : List Char} {c : Char}

/-- The first character behind the blanks of a text, if there is any, is one of those given. -/
def Next (allowed rest : List Char) : Prop := ∀ c ∈ (skipBlanks rest).head?, c ∈ allowed

/-- What the grammar lets come behind a node. -/
def afterNode : List Char := [',', ')']

/-- What the grammar lets come behind a leaf, and behind a group. -/
def afterLeaf : List Char := '&' :: '|' :: afterNode

/-- What the grammar lets come behind a column. -/
def afterFold : List Char := '=' :: '!' :: '<' :: '>' :: '?' :: afterLeaf

theorem next_nil (allowed : List Char) : Next allowed [] := by
  rintro c ⟨⟩

theorem next_cons (hb : isBlank c = false) : Next allowed (c :: cs) ↔ c ∈ allowed := by
  simp [Next, skipBlanks_cons hb]

theorem Next.mono (h : Next allowed cs) (hsub : allowed ⊆ more) : Next more cs :=
  fun c hc => hsub (h c hc)

theorem Blanks.next_iff (h : Blanks cs rest) : Next allowed cs ↔ Next allowed rest := by
  rw [Next, Next, h.skipBlanks_eq]

/-- No text goes on with a character that is not allowed. -/
theorem Next.ne_cons (h : Next allowed cs) (hb : isBlank c = false) (hc : c ∉ allowed) :
    ∀ more, cs ≠ c :: more := by
  rintro more rfl
  exact hc ((next_cons hb).mp h)

theorem Next.skipBlanks_ne_cons (h : Next allowed cs) (hc : c ∉ allowed) :
    ∀ more, skipBlanks cs ≠ c :: more := by
  intro more he
  have hhead : c ∈ (skipBlanks cs).head? := by rw [he]; rfl
  exact hc (h c hhead)

end Next

/-! ## Columns -/

theorem Ident.ident_eq {cs rest : List Char} {name : String} (h : Ident cs name rest) :
    ident cs = some (name, rest) := by
  rcases h with ⟨start, continues, longest⟩
  next c run =>
  have hrun : ∀ d ∈ run, isIdentRest d = true := by simpa using continues
  rw [ident, if_pos start, Reader.takeWhile_run hrun longest, Reader.dropWhile_run hrun longest]

theorem Path.path_eq {cs rest : List Char} {p : Expression.Path} (h : Path cs p rest)
    (hr : ∀ more, rest ≠ '.' :: more) : path cs = some (p, rest) := by
  rcases h with h | ⟨ht, hn⟩
  · rw [path, h.ident_eq]
    dsimp only
    split
    · exact absurd rfl (hr _)
    · rfl
  · rw [path, ht.ident_eq]
    simp only [hn.ident_eq]

theorem Enclosed.enclosed_eq {opening closing : String} {cs rest : List Char}
    {p : Expression.Path} (h : Enclosed opening closing cs p rest)
    (hc : ∃ more, closing.toList = ')' :: more) :
    enclosed opening.toList closing.toList cs = some (p, rest) := by
  rcases h with ⟨before, hpath, after⟩
  obtain ⟨more, hc⟩ := hc
  have hinner := before.skipBlanks_eq.trans (solid_path.tight hpath)
  have hclose : Next [')'] (closing.toList ++ rest) := by
    rw [hc]
    exact (next_cons rfl).mpr (by simp)
  have hrest := (after.next_iff.mpr hclose).ne_cons (c := '.') rfl (by simp)
  have hlast : skipBlanks (closing.toList ++ rest) = closing.toList ++ rest := by
    rw [hc]
    exact skipBlanks_cons rfl _
  rw [enclosed, Reader.symbol_append]
  simp only [hinner, hpath.path_eq hrest, after.skipBlanks_eq, hlast, Reader.symbol_append]

/-- A path in front of a word and a parenthesis is that word. -/
theorem Path.eq_open {w inner rest : List Char} {p : Expression.Path}
    (hw : w.all isIdentRest = true) (h : Path (w ++ '(' :: inner) p rest) :
    rest = '(' :: inner := by
  have hopen : isIdentRest '(' = false := by
    rw [isIdentRest, Unicode.isAlphanumeric_of_lt (by decide)]
    rfl
  have hident : ∀ {name rest}, Ident (w ++ '(' :: inner) name rest → rest = '(' :: inner := by
    intro name rest hi
    have he := hi.ident_eq
    cases w with
    | nil => cases he
    | cons c w =>
      have hw' : ∀ d ∈ w, isIdentRest d = true := by
        intro d hd
        exact List.all_eq_true.mp hw d (List.mem_cons_of_mem c hd)
      rw [List.cons_append, ident] at he
      split at he
      · cases he
        rw [List.dropWhile_append_of_pos hw', List.dropWhile_cons, if_neg (by simp [hopen])]
      · cases he
  rcases h with h | ⟨ht, -⟩
  · exact hident h
  · cases hident ht

theorem enclosed_eq_none {w more closing cs rest : List Char} {p : Expression.Path}
    (hw : w.all isIdentRest = true) (h : Path cs p rest) (hr : ∀ more, rest ≠ '(' :: more) :
    enclosed (w ++ '(' :: more) closing cs = none := by
  rw [enclosed]
  cases hs : Reader.symbol (w ++ '(' :: more) cs with
  | none => rfl
  | some r =>
    obtain rfl := Reader.symbol_eq_some_iff.mp hs
    rw [List.append_assoc] at h
    exact absurd (h.eq_open hw) (hr _)

section Folding

variable {cs rest : List Char} {p : Expression.Path}

/-! In each of these the alternatives that are tried before it fail. -/

theorem Enclosed.folded_both (h : Enclosed "upper(lower(" "))" cs p rest) :
    folded cs = some (⟨p.column, p.table, .eq, true, true⟩, rest) := by
  rw [folded, h.enclosed_eq ⟨_, rfl⟩]

theorem Enclosed.folded_lower (h : Enclosed "lower(" ")" cs p rest) :
    folded cs = some (⟨p.column, p.table, .eq, true, false⟩, rest) := by
  have hboth : enclosed "upper(lower(".toList "))".toList cs = none := by
    rcases h with ⟨-, -, -⟩
    rfl
  rw [folded, hboth, h.enclosed_eq ⟨_, rfl⟩]

theorem Enclosed.folded_upper (h : Enclosed "upper(" ")" cs p rest) :
    folded cs = some (⟨p.column, p.table, .eq, false, true⟩, rest) := by
  have hboth : enclosed "upper(lower(".toList "))".toList cs = none := by
    rcases h with ⟨before, path, after⟩
    next inner text more =>
    -- the column in the parentheses would be `lower`, and a parenthesis would follow it
    have hmore : ∀ r, more ≠ '(' :: r := by
      have hclose : Next [')'] (")".toList ++ rest) := (next_cons rfl).mpr (by decide)
      exact (after.next_iff.mpr hclose).ne_cons rfl (by decide)
    cases hs : Reader.symbol "lower(".toList inner with
    | none =>
      have he : Reader.symbol "upper(lower(".toList ("upper(".toList ++ inner) =
          Reader.symbol "lower(".toList inner := rfl
      rw [enclosed, he, hs]
    | some r =>
      obtain rfl := Reader.symbol_eq_some_iff.mp hs
      have hinner := before.skipBlanks_eq.trans (solid_path.tight path)
      obtain rfl : "lower(".toList ++ r.2 = text := hinner
      exact absurd (path.eq_open (w := "lower".toList) (by decide)) (hmore _)
  have hlower : enclosed "lower(".toList ")".toList cs = none := by
    rcases h with ⟨-, -, -⟩
    rfl
  rw [folded, hboth, hlower, h.enclosed_eq ⟨_, rfl⟩]

theorem Path.folded_eq (h : Path cs p rest) (hopen : ∀ more, rest ≠ '(' :: more)
    (hpoint : ∀ more, rest ≠ '.' :: more) :
    folded cs = some (⟨p.column, p.table, .eq, false, false⟩, rest) := by
  have hnone : ∀ (w more closing : List Char), w.all isIdentRest = true →
      enclosed (w ++ '(' :: more) closing cs = none :=
    fun w more closing hw => enclosed_eq_none hw h hopen
  have hboth : enclosed "upper(lower(".toList "))".toList cs = none :=
    hnone "upper".toList "lower(".toList _ (by decide)
  have hlower : enclosed "lower(".toList ")".toList cs = none :=
    hnone "lower".toList [] _ (by decide)
  have hupper : enclosed "upper(".toList ")".toList cs = none :=
    hnone "upper".toList [] _ (by decide)
  rw [folded, hboth, hlower, hupper, h.path_eq hpoint]

theorem Fold.folded_eq {l : ParamSql.Leaf} (h : Fold cs l rest)
    (hopen : ∀ more, rest ≠ '(' :: more) (hpoint : ∀ more, rest ≠ '.' :: more) :
    folded cs = some (l, rest) := by
  rcases h with h | h | h | h
  · exact h.folded_both
  · exact h.folded_lower
  · exact h.folded_upper
  · exact h.folded_eq hopen hpoint

end Folding

/-! ## Leaves -/

theorem comparison_of_next {cs : List Char} (h : Next ('?' :: afterLeaf) cs) :
    comparison (skipBlanks cs) = (.eq, skipBlanks cs) := by
  unfold comparison
  split
  · next he => exact absurd he (h.skipBlanks_ne_cons (by decide) _)
  · next he => exact absurd he (h.skipBlanks_ne_cons (by decide) _)
  · next he => exact absurd he (h.skipBlanks_ne_cons (by decide) _)
  · next he => exact absurd he (h.skipBlanks_ne_cons (by decide) _)
  · next he => exact absurd he (h.skipBlanks_ne_cons (by decide) _)
  · next he => exact absurd he (h.skipBlanks_ne_cons (by decide) _)
  · rfl

/-- A comparison is read behind its blanks; a missing one leaves what comes behind them. -/
theorem Op.comparison_eq {cs rest : List Char} {op : Comparison} (h : Op cs op rest)
    (hr : Next ('?' :: afterLeaf) rest) :
    ∃ last, comparison (skipBlanks cs) = (op, last) ∧ Blanks rest last := by
  cases h with
  | symbol =>
    refine ⟨rest, ?_, .refl rest⟩
    have hne := hr.ne_cons (c := '=') rfl (by decide)
    have hsymbol : skipBlanks (op.symbol.toList ++ rest) = op.symbol.toList ++ rest := by
      cases op <;> rfl
    rw [hsymbol]
    cases rest with
    | nil => cases op <;> rfl
    | cons c rest =>
      cases op <;> simp [Comparison.symbol, comparison]
  | missing => exact ⟨skipBlanks cs, comparison_of_next hr, blanks_skipBlanks cs⟩

theorem Mark.next {cs rest : List Char} (h : Mark cs rest) (hr : Next afterLeaf rest) :
    Next ('?' :: afterLeaf) cs := by
  cases h with
  | mark => exact (next_cons rfl).mpr (by decide)
  | missing => exact hr.mono (List.subset_cons_self _ _)

theorem Op.next {cs rest : List Char} {op : Comparison} (h : Op cs op rest)
    (hr : Next ('?' :: afterLeaf) rest) : Next afterFold cs := by
  cases h with
  | symbol => cases op <;> exact (next_cons rfl).mpr (by decide)
  | missing => exact hr.mono (by decide)

theorem Mark.blanks_skipMark {cs rest : List Char} (h : Mark cs rest)
    (hr : Next afterLeaf rest) : Blanks rest (skipMark (skipBlanks cs)) := by
  cases h with
  | mark => exact .refl rest
  | missing =>
    have hne := hr.skipBlanks_ne_cons (c := '?') (by decide)
    have hskip : skipMark (skipBlanks cs) = skipBlanks cs := by
      unfold skipMark
      split
      · next he => exact absurd he (hne _)
      · rfl
    rw [hskip]
    exact blanks_skipBlanks cs

/-! ## Reading up to blanks -/

section Complete

variable {α : Type} {reader : Reader α} {rule : Rule α} {bound : Nat}

/-- Whatever the rule admits in a text shorter than the bound, in front of what may follow, the
reader reads; it may go on over the blanks behind it. -/
def Complete (bound : Nat) (reader : Reader α) (rule : Rule α) (follow : List Char) : Prop :=
  ∀ ⦃cs a rest⦄, cs.length < bound → rule cs a rest → Next follow rest →
    ∃ last, reader cs = some (a, last) ∧ Blanks rest last

theorem complete_leaf (bound : Nat) : Complete bound leaf Leaf afterLeaf := by
  rintro _ _ rest - ⟨fold, before, symbol, after, mark⟩ hr
  next cs r₁ r₂ r₃ r₄ l op =>
  -- What follows the leaf decides what may follow each of its parts, from the last one on.
  have h₃ := after.next_iff.mpr (mark.next hr)
  have h₂ := symbol.next h₃
  obtain ⟨last, hlast, hblanks⟩ := symbol.comparison_eq h₃
  have hmark : skipBlanks last = skipBlanks r₄ :=
    hblanks.skipBlanks_eq.symm.trans after.skipBlanks_eq
  refine ⟨_, ?_, mark.blanks_skipMark hr⟩
  have h₁ := before.next_iff.mpr h₂
  rw [leaf, fold.folded_eq (h₁.ne_cons rfl (by decide)) (h₁.ne_cons rfl (by decide))]
  simp only [before.skipBlanks_eq, hlast, hmark]

/-- What follows one part of a sequence: the symbol of the next part, or what follows the
sequence. -/
theorem Star.next {mark : Char} (hm : isBlank mark = false) {cs rest : List Char} {as : List α}
    {follow : List Char} (h : Star (Behind mark rule) cs as rest) (hr : Next follow rest) :
    Next (mark :: follow) cs := by
  cases h with
  | nil => exact hr.mono (List.subset_cons_self _ _)
  | cons head tail =>
    obtain ⟨before, -, -⟩ := head
    exact before.next_iff.mpr ((next_cons hm).mpr (List.mem_cons_self ..))

theorem behind_eq_none {mark : Char} {cs follow : List Char} (h : Next follow cs)
    (hm : mark ∉ follow) (reader : Reader α) : behind [mark] reader cs = none := by
  rw [behind]
  cases hs : Reader.symbol [mark] (skipBlanks cs) with
  | none => rfl
  | some r => exact absurd (Reader.symbol_eq_some_iff.mp hs) (h.skipBlanks_ne_cons hm _)

/-- A symbol and what is behind it are read from a text without some of the blanks in front. -/
theorem behind_eq_some {mark : Char} (hm : isBlank mark = false) {cs inner item last : List Char}
    {a : α} (before : Blanks cs (mark :: inner)) (after : Blanks inner item)
    (htight : skipBlanks item = item) (hread : reader item = some (a, last)) {text : List Char}
    (ht : Blanks cs text) : behind [mark] reader text = some (a, last) := by
  have htext : skipBlanks text = mark :: inner := by
    rw [← ht.skipBlanks_eq, before.skipBlanks_eq, skipBlanks_cons hm]
  have hinner : skipBlanks inner = item := after.skipBlanks_eq.trans htight
  have hsymbol : Reader.symbol [mark] (mark :: inner) = some ((), inner) :=
    Reader.symbol_append [mark] inner
  rw [behind, htext, hsymbol]
  simp only [hinner, hread]

/-- **A sequence is read by reading as often as possible**, also from a text without some of the
blanks in front of it.  The induction is on the sequence; as a reader may skip blanks, the text
that is left for the next part is never longer than the one of the derivation. -/
theorem Complete.many {mark : Char} {between follow : List Char}
    (h : Complete bound reader rule between) (hrule : Solid rule) (hm : isBlank mark = false)
    (hbetween : mark :: follow ⊆ between) (hfollow : mark ∉ follow) {cs rest : List Char}
    {as : List α} (hs : Star (Behind mark rule) cs as rest) (hcs : cs.length ≤ bound)
    (hr : Next follow rest) {text : List Char} (ht : Blanks cs text) :
    ∃ last, Reader.many (behind [mark] reader) text = (as, last) ∧ Blanks rest last := by
  suffices hupTo : ∀ n, text.length ≤ n →
      ∃ last, Reader.upTo (behind [mark] reader) n text = (as, last) ∧ Blanks rest last from
    hupTo text.length (Nat.le_refl _)
  induction hs generalizing text with
  | nil cs =>
    intro n _
    have hnone := behind_eq_none (ht.next_iff.mp hr) hfollow reader
    exact ⟨text, Reader.upTo_of_none hnone n, ht⟩
  | cons head tail ih =>
    next cs more rest a as =>
    intro n hn
    have hnext := (tail.next hm hr).mono hbetween
    rcases head with ⟨before, after, hitem⟩
    next inner item =>
    -- each part takes some text, so the length bounds how many there are
    have htext : (skipBlanks text).length = inner.length + 1 := by
      rw [← ht.skipBlanks_eq, before.skipBlanks_eq, skipBlanks_cons hm, List.length_cons]
    have hlength := (blanks_skipBlanks text).length_le
    have hcslength := before.length_le
    have hitemlength := after.length_le
    have hmorelength := hrule.shorter hitem
    rw [List.length_cons] at hcslength
    obtain ⟨last, hread, hlast⟩ := h (by omega) hitem hnext
    have hlastlength := hlast.length_le
    obtain ⟨n, rfl⟩ : ∃ m, n = m + 1 := ⟨n - 1, by omega⟩
    obtain ⟨final, hupTo, hfinal⟩ := ih (by omega) hr hlast n (by omega)
    have hbehind := behind_eq_some hm before after (hrule.tight hitem) hread ht
    refine ⟨final, ?_, hfinal⟩
    rw [Reader.upTo, hbehind]
    simp only [hupTo]

end Complete

/-! ## Nodes -/

section Nodes

variable {reader : Reader Predicate} {rule : Rule Predicate} {bound : Nat}

/-- Nodes in parentheses are read, whatever follows the closing one. -/
theorem Complete.parenthesised (h : Complete bound reader rule afterNode) (hrule : Solid rule)
    {inner cs r₁ r₂ rest : List Char} {p : Predicate} {ps : List Predicate}
    (hbound : inner.length < bound) (before : Blanks inner cs) (first : rule cs p r₁)
    (others : Star (Behind ',' rule) r₁ ps r₂) (after : Blanks r₂ (')' :: rest)) :
    parenthesised reader ('(' :: inner) = some (p :: ps, rest) := by
  have hinner : skipBlanks inner = cs := before.skipBlanks_eq.trans (hrule.tight first)
  have hinnerlength := before.length_le
  have hfirstlength := hrule.shorter first
  have h₂ : Next [')'] r₂ := after.next_iff.mpr ((next_cons rfl).mpr (by decide))
  obtain ⟨last₁, hread, hlast₁⟩ := h (by omega) first (others.next rfl h₂)
  obtain ⟨last₂, hmany, hlast₂⟩ := h.many hrule rfl (List.Subset.refl _) (by decide) others
    (by omega) h₂ hlast₁
  have hclose : skipBlanks last₂ = ')' :: rest := by
    rw [← hlast₂.skipBlanks_eq, after.skipBlanks_eq, skipBlanks_cons rfl]
  have hopen : Reader.symbol ['('] ('(' :: inner) = some ((), inner) :=
    Reader.symbol_append ['('] inner
  have hsymbol : Reader.symbol [')'] (')' :: rest) = some ((), rest) :=
    Reader.symbol_append [')'] rest
  rw [Expression.parenthesised, hopen]
  simp only [hinner, hread, hmany, hclose, hsymbol]

/-- No leaf begins with a parenthesis. -/
theorem parenthesised_eq_none {cs : List Char} {r : ParamSql.Leaf × List Char}
    (h : leaf cs = some r) (reader : Reader Predicate) : parenthesised reader cs = none := by
  rw [parenthesised]
  cases hs : Reader.symbol ['('] cs with
  | none => rfl
  | some r =>
    obtain rfl := Reader.symbol_eq_some_iff.mp hs
    cases h

theorem Complete.group (h : Complete bound reader rule afterNode) (hrule : Solid rule) :
    Complete (bound + 1) (group reader) (Group rule) afterLeaf := by
  rintro _ _ rest hcs (⟨before, first, others, after⟩ | hleaf) hr
  · rw [List.length_cons] at hcs
    have hread := h.parenthesised hrule (by omega) before first others after
    refine ⟨rest, ?_, .refl rest⟩
    rw [Expression.group, hread]
  · obtain ⟨last, hread, hlast⟩ := complete_leaf _ hcs hleaf hr
    refine ⟨last, ?_, hlast⟩
    rw [Expression.group, parenthesised_eq_none hread, hread]

/-- **What is a node is read as a node**, when parentheses may nest as deep as the text is
long. -/
theorem complete_node (bound : Nat) : Complete bound (node bound) Node afterNode := by
  let motive : Rule Predicate := fun cs p rest => ∀ bound, cs.length < bound →
    Next afterNode rest → ∃ last, node bound cs = some (p, last) ∧ Blanks rest last
  suffices hnode : ∀ {cs p rest}, Node cs p rest → motive cs p rest from
    fun cs p rest hcs h hr => hnode h bound hcs hr
  intro cs p rest h
  refine Node.induction (fun leaf conjuncts disjuncts => ?_) h
  next cs r₁ r₂ rest l ands ors =>
  intro bound hcs hr
  obtain ⟨bound, rfl⟩ : ∃ m, bound = m + 1 := ⟨bound - 1, by omega⟩
  have hsolid : Solid fun cs p rest => Node cs p rest ∧ motive cs p rest :=
    ⟨fun h => solid_node.tight h.1, fun h => solid_node.shorter h.1⟩
  have hinside : Complete bound (node bound) (fun cs p rest => Node cs p rest ∧ motive cs p rest)
      afterNode := fun cs p rest hcs h hr => h.2 bound hcs hr
  have hgroup := hinside.group hsolid
  have hleaflength := solid_leaf.shorter leaf
  have hconjunctslength := hsolid.group.star conjuncts
  -- Behind the conjuncts the disjuncts may begin, and behind the leaf either of them.
  have h₂ : Next ('|' :: afterNode) r₂ := disjuncts.next rfl hr
  have h₁ : Next afterLeaf r₁ := conjuncts.next rfl h₂
  obtain ⟨last₁, hread, hlast₁⟩ := complete_leaf _ hcs leaf h₁
  obtain ⟨last₂, hands, hlast₂⟩ := hgroup.many hsolid.group rfl (List.Subset.refl _) (by decide)
    conjuncts (by omega) h₂ hlast₁
  obtain ⟨last, hors, hlast⟩ := hgroup.many hsolid.group rfl (List.subset_cons_self _ _)
    (by decide) disjuncts (by omega) hr hlast₂
  refine ⟨last, ?_, hlast⟩
  simp only [node, hread, hands, hors]

end Nodes

end Grammar

/-! ## Whole texts -/

/-- **A text is read as a predicate exactly when it denotes that predicate**. -/
theorem parseTrimmed_eq_ok_iff {cs : List Char} {p : Predicate} :
    parseTrimmed cs = .ok p ↔ Derives cs p := by
  rw [parseTrimmed]
  constructor
  · intro h
    split at h
    · cases h
    · next q hread =>
      cases h
      exact Grammar.sound_node _ hread
    · cases h
  · intro h
    obtain ⟨last, hread, run, -, hlast⟩ :=
      Grammar.complete_node _ (Nat.lt_succ_self _) h (Grammar.next_nil _)
    obtain ⟨-, rfl⟩ := List.append_eq_nil_iff.mp hlast.symm
    rw [hread]

/-- **The parser accepts the grammar and nothing else.**  A text is read as a predicate exactly
when, without the white space around it, it denotes that predicate, and no text denotes two
predicates. -/
theorem parse_eq_ok_iff_derives :
    (∀ (s : String) (p : Predicate), parse s = .ok p ↔ Derives (Unicode.trim s.toList) p) ∧
      ∀ (cs : List Char) (p q : Predicate), Derives cs p → Derives cs q → p = q := by
  refine ⟨fun s p => parseTrimmed_eq_ok_iff, fun cs p q hp hq => ?_⟩
  rw [← parseTrimmed_eq_ok_iff] at hp hq
  rw [hp] at hq
  cases hq
  rfl

/-- Groups of both kinds, blanks between the tokens, and a column that is called like the
function in front of another one; the same text without the groups is another predicate. -/
theorem derives_grouped_columns :
    let text := " lower &lower( users.name)!=?|( a , upper >= & b)"
    let b : Predicate := ⟨⟨"b", none, .eq, false, false⟩, [], []⟩
    let a : Predicate := ⟨⟨"a", none, .eq, false, false⟩, [], []⟩
    let name : Predicate := ⟨⟨"name", some "users", .ne, true, false⟩, [], []⟩
    let upper : Predicate := ⟨⟨"upper", none, .ge, false, false⟩, [b], []⟩
    let p : Predicate := ⟨⟨"lower", none, .eq, false, false⟩, [name], [a, upper]⟩
    parse text = .ok p ∧ Derives (Unicode.trim text.toList) p ∧
      ¬ Derives (Unicode.trim text.toList) ⟨p.leaf, [name, a, upper], []⟩ := by
  intro text b a name upper p
  have hread : node ((Unicode.trim text.toList).length + 1) (Unicode.trim text.toList) =
      some (p, []) := by decide +kernel
  have hparse : parse text = .ok p := by rw [parse, parseTrimmed, hread]
  have hderives := (parse_eq_ok_iff_derives.1 text p).mp hparse
  refine ⟨hparse, hderives, fun h => ?_⟩
  have hp := parse_eq_ok_iff_derives.2 _ _ _ hderives h
  exact absurd hp (by decide)

end ParamSql.Expression
