import ParamSql.Proofs.Expression.Grammar
import ParamSql.Proofs.Reader

/-!
# Expressions are read by the grammar

Whatever a reader of expressions reads, the grammar admits: a reader chooses among the
alternatives of a rule and takes as much as it can, and the rule leaves both open.  There is
one lemma per reader, each of them from those of the readers it uses.

## Main definitions

* `Grammar.Sound reader rule`: what the reader reads, the rule admits

## Main results

* `Grammar.Sound.many`: a reader used as often as possible reads a sequence
* `Grammar.sound_node`: what is read as a node is a node
-/

namespace ParamSql.Expression.Grammar

variable {α : Type}

/-- Whatever the reader reads, the rule admits with the same value and the same rest. -/
def Sound (reader : Reader α) (rule : Rule α) : Prop :=
  ∀ ⦃cs a rest⦄, reader cs = some (a, rest) → rule cs a rest

/-! ## Leaves -/

theorem sound_ident : Sound ident Ident := by
  intro cs name rest h
  cases cs with
  | nil => cases h
  | cons c cs =>
    rw [ident] at h
    split at h
    · next start =>
      cases h
      have hlongest : ∀ d ∈ (cs.dropWhile isIdentRest).head?, isIdentRest d = false := by
        intro d hd
        have hhead := List.head?_dropWhile_not isIdentRest cs
        rw [Option.mem_def.mp hd] at hhead
        simpa using hhead
      have hident := Ident.run start (List.all_takeWhile (l := cs)) hlongest
      rwa [List.takeWhile_append_dropWhile] at hident
    · cases h

theorem sound_path : Sound path Path := by
  intro cs p rest h
  rw [path] at h
  split at h
  · cases h
  · next first more hfirst =>
    have htable := sound_ident hfirst
    split at h
    · split at h
      · next second last hsecond =>
        cases h
        exact .qualified htable (sound_ident hsecond)
      · cases h
        exact .column htable
    · cases h
      exact .column htable

theorem sound_enclosed (opening closing : String) :
    Sound (enclosed opening.toList closing.toList) (Enclosed opening closing) := by
  intro cs p rest h
  rw [enclosed] at h
  split at h
  · cases h
  · next inner hopen =>
    split at h
    · cases h
    · next q more hpath =>
      split at h
      · cases h
      · next last hclose =>
        cases h
        obtain rfl := Reader.symbol_eq_some_iff.mp hopen
        have hafter := Reader.symbol_eq_some_iff.mp hclose
        refine .between (blanks_skipBlanks _) (sound_path hpath) ?_
        rw [← hafter]
        exact blanks_skipBlanks _

theorem sound_folded : Sound folded Fold := by
  intro cs l rest h
  rw [folded] at h
  -- An alternative is tried when those before it have failed, and the rule does not ask for that.
  split at h
  · next hboth =>
    cases h
    exact .both (sound_enclosed _ _ hboth)
  · split at h
    · next hlower =>
      cases h
      exact .lower (sound_enclosed _ _ hlower)
    · split at h
      · next hupper =>
        cases h
        exact .upper (sound_enclosed _ _ hupper)
      · split at h
        · next hplain =>
          cases h
          exact .plain (sound_path hplain)
        · cases h

theorem sound_comparison (cs : List Char) : Op cs (comparison cs).1 (comparison cs).2 := by
  unfold comparison
  split
  · exact .symbol .ge _
  · exact .symbol .le _
  · exact .symbol .ne _
  · exact .symbol .eq _
  · exact .symbol .gt _
  · exact .symbol .lt _
  · exact .missing _

theorem sound_skipMark (cs : List Char) : Mark cs (skipMark cs) := by
  unfold skipMark
  split
  · exact .mark _
  · exact .missing _

theorem sound_leaf : Sound leaf Leaf := by
  intro cs l rest h
  rw [leaf] at h
  split at h
  · cases h
  · next fold =>
    cases h
    exact .leaf (sound_folded fold) (blanks_skipBlanks _) (sound_comparison _)
      (blanks_skipBlanks _) (sound_skipMark _)

/-! ## Nodes -/

section Sequences

variable {reader : Reader α} {rule : Rule α}

theorem Sound.behind (h : Sound reader rule) (mark : Char) :
    Sound (behind [mark] reader) (Behind mark rule) := by
  intro cs a rest hb
  rw [Expression.behind] at hb
  split at hb
  · next more hmark =>
    have hbefore := Reader.symbol_eq_some_iff.mp hmark
    refine .behind ?_ (blanks_skipBlanks _) (h hb)
    rw [List.singleton_append] at hbefore
    rw [← hbefore]
    exact blanks_skipBlanks _
  · cases hb

theorem Sound.upTo (h : Sound reader rule) (n : Nat) (cs : List Char) :
    Star rule cs (Reader.upTo reader n cs).1 (Reader.upTo reader n cs).2 := by
  induction n generalizing cs with
  | zero => exact .nil cs
  | succ n ih =>
    rw [Reader.upTo]
    split
    · exact .nil cs
    · next hread => exact .cons (h hread) (ih _)

/-- **What is read as often as possible is a sequence**. -/
theorem Sound.many (h : Sound reader rule) (cs : List Char) :
    Star rule cs (Reader.many reader cs).1 (Reader.many reader cs).2 :=
  h.upTo cs.length cs

end Sequences

section Nodes

variable {reader : Reader Predicate} {rule : Rule Predicate}

theorem Sound.parenthesised (h : Sound reader rule) :
    Sound (parenthesised reader) (Group rule) := by
  intro cs ps rest hp
  rw [Expression.parenthesised] at hp
  split at hp
  · cases hp
  · next inner hopen =>
    split at hp
    · cases hp
    · next p more hfirst =>
      dsimp only at hp
      split at hp
      · cases hp
      · next last hclose =>
        cases hp
        obtain rfl := Reader.symbol_eq_some_iff.mp hopen
        have hafter := Reader.symbol_eq_some_iff.mp hclose
        refine .nodes (blanks_skipBlanks _) (h hfirst) ((h.behind ',').many _) ?_
        rw [List.singleton_append] at hafter
        rw [← hafter]
        exact blanks_skipBlanks _

theorem Sound.group (h : Sound reader rule) : Sound (group reader) (Group rule) := by
  intro cs ps rest hg
  rw [Expression.group] at hg
  split at hg
  · next hparenthesised =>
    cases hg
    exact h.parenthesised hparenthesised
  · split at hg
    · next hleaf =>
      cases hg
      exact .leaf (sound_leaf hleaf)
    · cases hg

/-- **What is read as a node is a node**, however deep parentheses may nest. -/
theorem sound_node (depth : Nat) : Sound (node depth) Node := by
  induction depth with
  | zero =>
    intro cs p rest h
    cases h
  | succ depth ih =>
    intro cs p rest h
    simp only [node] at h
    split at h
    · cases h
    · next hleaf =>
      cases h
      exact .node (sound_leaf hleaf) ((ih.group.behind '&').many _) ((ih.group.behind '|').many _)

end Nodes

end ParamSql.Expression.Grammar
