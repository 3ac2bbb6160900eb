import Mathlib.Logic.Relation
import ParamSql.Proofs.Expression.Grammar

/-!
# What a rule takes of a text

A rule of the grammar takes a beginning off the text and says nothing about what is behind it,
but for one thing: an identifier ends where the next character does not continue it.  So what a
rule takes of one text it takes of every text that begins with the same characters, as long as
behind them there is the same character as before, or nothing at all.

## Main definitions

* `Grammar.StartsLike`: a text begins with the same character as another one, or is empty
* `Grammar.Local`: what is taken depends on itself and on the character behind it

## Main results

* `Grammar.Local.comp`: one thing is taken after the other
* `Grammar.local_leaf`, `Grammar.local_node`
* `Grammar.Local.extend`: behind something that is not the end, the text may be longer
-/

namespace ParamSql.Expression.Grammar

/-! ## Relations between a text and its rest -/

/-- The text begins with the character that the other one begins with, or it is empty. -/
def StartsLike (more rest : List Char) : Prop := ∀ c ∈ more.head?, c ∈ rest.head?

namespace StartsLike

variable {more rest : List Char}

theorem refl (rest : List Char) : StartsLike rest rest := fun _ hc => hc

theorem nil (rest : List Char) : StartsLike [] rest := nofun

theorem cons (c : Char) : StartsLike (c :: more) (c :: rest) := fun _ hd => hd

/-- Behind the same characters nothing new comes first. -/
theorem append (h : StartsLike more rest) (taken : List Char) :
    StartsLike (taken ++ more) (taken ++ rest) := by
  cases taken with
  | nil => exact h
  | cons c taken => exact .cons c

theorem append_right (hne : rest ≠ []) (more : List Char) : StartsLike (rest ++ more) rest := by
  cases rest with
  | nil => exact absurd rfl hne
  | cons c rest => exact .cons c

end StartsLike

/-- What is taken of a text is a beginning of it, and it is taken of every text that begins with
it and goes on with the same character as that one, or ends there. -/
def Local (takes : List Char → List Char → Prop) : Prop :=
  ∀ ⦃cs rest⦄, takes cs rest → ∃ taken, cs = taken ++ rest ∧
    ∀ more, StartsLike more rest → takes (taken ++ more) more

namespace Local

variable {takes first second : List Char → List Char → Prop} {cs rest : List Char}

theorem suffix (h : Local takes) (ht : takes cs rest) : rest <:+ cs := by
  obtain ⟨taken, rfl, -⟩ := h ht
  exact List.suffix_append taken rest

/-- What is left may be followed by more, unless nothing was left. -/
theorem extend (h : Local takes) (ht : takes cs rest) (hne : rest ≠ []) (more : List Char) :
    takes (cs ++ more) (rest ++ more) := by
  obtain ⟨taken, rfl, htaken⟩ := h ht
  rw [List.append_assoc]
  exact htaken (rest ++ more) (.append_right hne more)

/-- **One thing after the other** is taken as they are: of what the second one takes, the first
character stays. -/
theorem comp (h₁ : Local first) (h₂ : Local second) : Local (Relation.Comp first second) := by
  rintro _ rest ⟨mid, hfirst, hsecond⟩
  obtain ⟨taken₁, rfl, htaken₁⟩ := h₁ hfirst
  obtain ⟨taken₂, rfl, htaken₂⟩ := h₂ hsecond
  refine ⟨taken₁ ++ taken₂, by rw [List.append_assoc], fun more hmore => ?_⟩
  rw [List.append_assoc]
  exact ⟨taken₂ ++ more, htaken₁ _ (hmore.append taken₂), htaken₂ more hmore⟩

end Local

/-- The text is the symbol and the rest. -/
def Symbol (symbol : List Char) (cs rest : List Char) : Prop := cs = symbol ++ rest

theorem local_symbol (symbol : List Char) : Local (Symbol symbol) := by
  rintro _ rest rfl
  exact ⟨symbol, rfl, fun _ _ => rfl⟩

theorem local_blanks : Local Blanks := by
  rintro _ rest ⟨run, hrun, rfl⟩
  exact ⟨run, rfl, fun _ _ => ⟨run, hrun, rfl⟩⟩

theorem Blanks.append {cs rest : List Char} (h : Blanks cs rest) (more : List Char) :
    Blanks (cs ++ more) (rest ++ more) := by
  obtain ⟨run, hrun, rfl⟩ := h
  exact ⟨run, hrun, by rw [List.append_assoc]⟩

theorem Blanks.trans {cs mid rest : List Char} (h₁ : Blanks cs mid) (h₂ : Blanks mid rest) :
    Blanks cs rest := by
  obtain ⟨run₁, hrun₁, rfl⟩ := h₁
  obtain ⟨run₂, hrun₂, rfl⟩ := h₂
  exact ⟨run₁ ++ run₂, by rw [List.all_append, hrun₁, hrun₂]; rfl, by rw [List.append_assoc]⟩

/-! ## Leaves -/

theorem local_ident (name : String) : Local (Ident · name ·) := by
  rintro _ rest ⟨start, continues, longest⟩
  next c run =>
  refine ⟨c :: run, rfl, fun more hmore => ?_⟩
  exact .run start continues fun d hd => longest d (hmore d hd)

theorem local_op (op : Comparison) : Local (Op · op ·) := by
  rintro _ rest (- | -)
  · exact ⟨op.symbol.toList, rfl, fun more _ => .symbol op more⟩
  · exact ⟨[], rfl, fun more _ => .missing more⟩

theorem local_mark : Local Mark := by
  rintro _ rest (- | -)
  · exact ⟨['?'], rfl, fun more _ => .mark more⟩
  · exact ⟨[], rfl, fun more _ => .missing more⟩

theorem local_path (p : Expression.Path) : Local (Path · p ·) := by
  rintro _ rest (h | ⟨ht, hn⟩)
  · obtain ⟨taken, rfl, htaken⟩ := local_ident _ h
    exact ⟨taken, rfl, fun more hmore => .column (htaken more hmore)⟩
  · next table name =>
    have hpath := ((local_ident table).comp (local_symbol ['.'])).comp (local_ident name)
    obtain ⟨taken, rfl, htaken⟩ := hpath ⟨_, ⟨_, ht, rfl⟩, hn⟩
    refine ⟨taken, rfl, fun more hmore => ?_⟩
    obtain ⟨_, ⟨_, ht, rfl⟩, hn⟩ := htaken more hmore
    exact .qualified ht hn

theorem local_enclosed (opening closing : String) (p : Expression.Path) :
    Local (Enclosed opening closing · p ·) := by
  rintro _ rest ⟨before, path, after⟩
  have hinner := ((local_blanks.comp (local_path p)).comp local_blanks).comp
    (local_symbol closing.toList)
  obtain ⟨taken, htaken, hmore⟩ := ((local_symbol opening.toList).comp hinner)
    ⟨_, rfl, _, ⟨_, ⟨_, before, path⟩, after⟩, rfl⟩
  refine ⟨taken, htaken, fun more hlike => ?_⟩
  obtain ⟨_, htext, _, ⟨_, ⟨_, before, path⟩, after⟩, rfl⟩ := hmore more hlike
  rw [htext]
  exact .between before path after

theorem local_fold (l : ParamSql.Leaf) : Local (Fold · l ·) := by
  rintro cs rest (h | h | h | h)
  · obtain ⟨taken, rfl, htaken⟩ := local_enclosed _ _ _ h
    exact ⟨taken, rfl, fun more hmore => .both (htaken more hmore)⟩
  · obtain ⟨taken, rfl, htaken⟩ := local_enclosed _ _ _ h
    exact ⟨taken, rfl, fun more hmore => .lower (htaken more hmore)⟩
  · obtain ⟨taken, rfl, htaken⟩ := local_enclosed _ _ _ h
    exact ⟨taken, rfl, fun more hmore => .upper (htaken more hmore)⟩
  · obtain ⟨taken, rfl, htaken⟩ := local_path _ h
    exact ⟨taken, rfl, fun more hmore => .plain (htaken more hmore)⟩

theorem local_leaf (l : ParamSql.Leaf) : Local (Leaf · l ·) := by
  rintro _ rest ⟨fold, before, symbol, after, mark⟩
  next l op =>
  have hleaf := (((((local_fold l).comp local_blanks).comp (local_op op)).comp
    local_blanks).comp local_mark)
  obtain ⟨taken, rfl, htaken⟩ :=
    hleaf ⟨_, ⟨_, ⟨_, ⟨_, fold, before⟩, symbol⟩, after⟩, mark⟩
  refine ⟨taken, rfl, fun more hmore => ?_⟩
  obtain ⟨_, ⟨_, ⟨_, ⟨_, fold, before⟩, symbol⟩, after⟩, mark⟩ := htaken more hmore
  exact .leaf fold before symbol after mark

/-! ## Nodes -/

section Sequences

variable {α : Type} {item item' : Rule α} {cs rest : List Char} {a : α} {as : List α}

theorem Star.mono (h : ∀ {cs a rest}, item cs a rest → item' cs a rest)
    (hs : Star item cs as rest) : Star item' cs as rest := by
  induction hs with
  | nil cs => exact .nil cs
  | cons head _ ih => exact .cons (h head) ih

theorem Behind.mono {mark : Char} (h : ∀ {cs a rest}, item cs a rest → item' cs a rest)
    (hb : Behind mark item cs a rest) : Behind mark item' cs a rest := by
  obtain ⟨before, after, hitem⟩ := hb
  exact .behind before after (h hitem)

theorem local_behind (h : ∀ a, Local (item · a ·)) (mark : Char) (a : α) :
    Local (Behind mark item · a ·) := by
  rintro _ rest ⟨before, after, hitem⟩
  have hbehind := ((local_blanks.comp (local_symbol [mark])).comp local_blanks).comp (h a)
  obtain ⟨taken, rfl, htaken⟩ := hbehind ⟨_, ⟨_, ⟨_, before, rfl⟩, after⟩, hitem⟩
  refine ⟨taken, rfl, fun more hmore => ?_⟩
  obtain ⟨_, ⟨_, ⟨_, before, rfl⟩, after⟩, hitem⟩ := htaken more hmore
  exact .behind before after hitem

/-- The induction is on the items: what is behind the first one is taken after it. -/
theorem local_star (h : ∀ a, Local (item · a ·)) (as : List α) : Local (Star item · as ·) := by
  induction as with
  | nil =>
    rintro cs _ ⟨⟩
    exact ⟨[], rfl, fun more _ => .nil more⟩
  | cons a as ih =>
    rintro _ rest (_ | ⟨head, tail⟩)
    obtain ⟨taken, rfl, htaken⟩ := ((h a).comp ih) ⟨_, head, tail⟩
    refine ⟨taken, rfl, fun more hmore => ?_⟩
    obtain ⟨_, head, tail⟩ := htaken more hmore
    exact .cons head tail

end Sequences

section Nodes

variable {node node' : Rule Predicate}

theorem Group.mono (h : ∀ {cs p rest}, node cs p rest → node' cs p rest) {cs rest : List Char}
    {ps : List Predicate} (hg : Group node cs ps rest) : Group node' cs ps rest := by
  rcases hg with ⟨before, first, others, after⟩ | hleaf
  · exact .nodes before (h first) (others.mono (Behind.mono h)) after
  · exact .leaf hleaf

/-- What stands between the parentheses of a group, up to the closing one. -/
def Inside (node : Rule Predicate) : Rule (List Predicate)
  | cs, p :: ps, rest => Relation.Comp (Relation.Comp (Relation.Comp Blanks (node · p ·))
      (Star (Behind ',' node) · ps ·)) Blanks cs rest
  | _, [], _ => False

theorem local_inside (h : ∀ p, Local (node · p ·)) (ps : List Predicate) :
    Local (Inside node · ps ·) := by
  cases ps with
  | nil => exact fun _ _ hinside => hinside.elim
  | cons p ps =>
    exact ((local_blanks.comp (h p)).comp (local_star (local_behind h ',') ps)).comp local_blanks

theorem group_of_inside {inner rest : List Char} {ps : List Predicate}
    (h : Inside node inner ps (')' :: rest)) : Group node ('(' :: inner) ps rest := by
  cases ps with
  | nil => exact h.elim
  | cons p ps =>
    obtain ⟨_, ⟨_, ⟨_, before, first⟩, others⟩, after⟩ := h
    exact .nodes before first others after

theorem local_group (h : ∀ p, Local (node · p ·)) (ps : List Predicate) :
    Local (Group node · ps ·) := by
  rintro _ rest (⟨before, first, others, after⟩ | hleaf)
  · next inner _ _ _ p ps =>
    obtain ⟨taken, rfl, htaken⟩ := local_inside h (p :: ps)
      ⟨_, ⟨_, ⟨_, before, first⟩, others⟩, after⟩
    refine ⟨'(' :: (taken ++ [')']), by simp, fun more _ => ?_⟩
    have hinside := htaken (')' :: more) (.cons ')')
    rw [List.cons_append, List.append_assoc]
    exact group_of_inside hinside
  · obtain ⟨taken, rfl, htaken⟩ := local_leaf _ hleaf
    exact ⟨taken, rfl, fun more hmore => .leaf (htaken more hmore)⟩

/-- **What a node takes of a text** depends on nothing behind it but the next character. -/
theorem local_node (p : Predicate) : Local (Node · p ·) := by
  let motive : Rule Predicate := fun cs p rest => ∃ taken, cs = taken ++ rest ∧
    ∀ more, StartsLike more rest → Node (taken ++ more) p more
  intro cs rest h
  refine Node.induction (motive := motive) (fun leaf conjuncts disjuncts => ?_) h
  next l ands ors =>
  have hinside : ∀ p, Local fun cs rest => Node cs p rest ∧ motive cs p rest := by
    rintro p _ rest ⟨-, taken, rfl, htaken⟩
    refine ⟨taken, rfl, fun more hmore => ⟨htaken more hmore, taken, rfl, fun last hlast => ?_⟩⟩
    exact htaken last fun c hc => hmore c (hlast c hc)
  have hgroup := local_group hinside
  obtain ⟨taken, rfl, htaken⟩ := (((local_leaf l).comp
    (local_star (local_behind hgroup '&') ands)).comp
    (local_star (local_behind hgroup '|') ors)) ⟨_, ⟨_, leaf, conjuncts⟩, disjuncts⟩
  refine ⟨taken, rfl, fun more hmore => ?_⟩
  obtain ⟨_, ⟨_, leaf, conjuncts⟩, disjuncts⟩ := htaken more hmore
  exact .node leaf (conjuncts.mono (Behind.mono (Group.mono And.left)))
    (disjuncts.mono (Behind.mono (Group.mono And.left)))

end Nodes

end ParamSql.Expression.Grammar
