import ParamSql.Proofs.Expression.Identifier
import ParamSql.Proofs.Expression.Locality

/-!
# How an expression ends

What denotes a leaf or a node ends in a letter, a digit, an underscore, a parenthesis, the symbol
of a comparison or a question mark, none of which is white space; blanks behind that may be taken
as well, or left.  So an expression with blanks behind it is an expression without them, and a
text that begins with a node begins with an expression that nothing is to be trimmed off.

## Main definitions

* `Grammar.Ends`: what is taken ends in a character that is no white space
* `Grammar.Trimmable`: the rule may leave the blanks behind what it takes

## Main results

* `Unicode.isAlphanumeric_of_isWhiteSpace`
* `Grammar.trimmable_leaf`, `Grammar.trimmable_node`
* `Grammar.Node.exists_derives`: in front of what a node leaves there is an expression
-/

namespace ParamSql

/-! ## Characters -/

namespace Unicode

/-- The code points that are white space. -/
def whiteSpaces : List Nat :=
  List.range' 9 5 ++ [0x20, 0x85, 0xA0, 0x1680] ++ List.range' 0x2000 11 ++
    [0x2028, 0x2029, 0x202F, 0x205F, 0x3000]

/-- White space is neither a letter nor a number. -/
theorem isAlphanumeric_of_isWhiteSpace {c : Char} (h : isWhiteSpace c = true) :
    isAlphanumeric c = false := by
  have htable : ∀ n ∈ whiteSpaces, isAlphanumeric (Char.ofNat n) = false := by decide +kernel
  have hmem : c.toNat ∈ whiteSpaces := by
    simp only [isWhiteSpace, Bool.or_eq_true, Bool.and_eq_true, decide_eq_true_eq,
      beq_iff_eq] at h
    simp only [whiteSpaces, List.mem_append, List.mem_range'_1, List.mem_cons, List.not_mem_nil]
    omega
  have hc := htable c.toNat hmem
  rwa [Char.ofNat_toNat] at hc

end Unicode

namespace Expression

theorem isWhiteSpace_of_isIdentRest {c : Char} (h : isIdentRest c = true) :
    Unicode.isWhiteSpace c = false := by
  rw [← Bool.not_eq_true]
  intro hwhite
  rw [isIdentRest, Unicode.isAlphanumeric_of_isWhiteSpace hwhite, Bool.false_or, beq_iff_eq] at h
  subst h
  exact absurd hwhite (by decide)

theorem isWhiteSpace_of_isBlank {c : Char} (h : isBlank c = true) :
    Unicode.isWhiteSpace c = true := by
  simp only [isBlank, Bool.or_eq_true, beq_iff_eq] at h
  rcases h with ((rfl | rfl) | rfl) | rfl <;> rfl

namespace Grammar

/-! ## Leaves -/

/-- What is taken ends in a character that is no white space. -/
def Ends (cs rest : List Char) : Prop :=
  ∃ text c, cs = text ++ c :: rest ∧ Unicode.isWhiteSpace c = false

section Endings

variable {cs more rest : List Char}

theorem ends_cons {c : Char} (h : Unicode.isWhiteSpace c = false) (rest : List Char) :
    Ends (c :: rest) rest := ⟨[], c, rfl, h⟩

theorem Ends.of_suffix (h : Ends more rest) (hs : more <:+ cs) : Ends cs rest := by
  obtain ⟨text, c, rfl, hc⟩ := h
  obtain ⟨before, rfl⟩ := hs
  exact ⟨before ++ text, c, by rw [List.append_assoc], hc⟩

theorem Ident.ends {name : String} (h : Ident cs name rest) : Ends cs rest := by
  obtain ⟨start, continues, -⟩ := h
  next c run =>
  rcases List.eq_nil_or_concat run with rfl | ⟨run, last, rfl⟩
  · exact ends_cons (isWhiteSpace_of_isIdentRest (isIdentRest_of_isIdentStart start)) rest
  · have hlast : isIdentRest last = true := List.all_eq_true.mp continues last (by simp)
    exact ⟨c :: run, last, by simp, isWhiteSpace_of_isIdentRest hlast⟩

theorem Path.ends {p : Expression.Path} (h : Path cs p rest) : Ends cs rest := by
  rcases h with h | ⟨ht, hn⟩
  · exact h.ends
  · exact hn.ends.of_suffix ((List.suffix_cons ..).trans ((local_ident _).suffix ht))

theorem Enclosed.ends {opening closing : String} {p : Expression.Path}
    (h : Enclosed opening closing cs p rest) (hc : ∃ text, closing.toList = text ++ [')']) :
    Ends cs rest := by
  obtain ⟨before, path, after⟩ := h
  obtain ⟨text, hc⟩ := hc
  have hclosing : Ends (closing.toList ++ rest) rest := ⟨text, ')', by simp [hc], by decide⟩
  refine hclosing.of_suffix ?_
  exact (((local_blanks.suffix after).trans ((local_path _).suffix path)).trans
    (local_blanks.suffix before)).trans (List.suffix_append ..)

theorem Fold.ends {l : ParamSql.Leaf} (h : Fold cs l rest) : Ends cs rest := by
  rcases h with h | h | h | h
  · exact h.ends ⟨[')'], rfl⟩
  · exact h.ends ⟨[], rfl⟩
  · exact h.ends ⟨[], rfl⟩
  · exact h.ends

end Endings

/-! ## Leaving the blanks -/

section Trimmable

variable {α : Type} {item : Rule α} {cs rest : List Char}

/-- The blanks at the end of what the rule takes may also be left. -/
def Trimmable (rule : Rule α) : Prop :=
  ∀ ⦃cs a rest⦄, rule cs a rest → ∃ mid, rule cs a mid ∧ Blanks mid rest ∧ Ends cs mid

/-- A leaf ends with its last part that is there: the question mark, the symbol or the column. -/
theorem trimmable_leaf : Trimmable Leaf := by
  rintro cs _ rest ⟨fold, before, symbol, after, mark⟩
  next r₁ r₂ r₃ r₄ l op =>
  have h₁ := (local_fold l).suffix fold
  have h₂ := (local_blanks.suffix before).trans h₁
  cases mark with
  | mark =>
    have h₄ := ((local_blanks.suffix after).trans ((local_op op).suffix symbol)).trans h₂
    exact ⟨rest, .leaf fold before symbol after (.mark rest), .refl rest,
      (ends_cons (by decide) rest).of_suffix h₄⟩
  | missing =>
    cases symbol with
    | symbol =>
      have hsymbol : Ends (op.symbol.toList ++ r₃) r₃ := by
        cases op with
        | eq => exact ends_cons (by decide) r₃
        | ne => exact ⟨['!'], '=', rfl, by decide⟩
        | gt => exact ends_cons (by decide) r₃
        | ge => exact ⟨['>'], '=', rfl, by decide⟩
        | lt => exact ends_cons (by decide) r₃
        | le => exact ⟨['<'], '=', rfl, by decide⟩
      exact ⟨r₃, .leaf fold before (.symbol op r₃) (.refl r₃) (.missing r₃), after,
        hsymbol.of_suffix h₂⟩
    | missing =>
      exact ⟨r₁, .leaf fold (.refl r₁) (.missing r₁) (.refl r₁) (.missing r₁),
        before.trans after, fold.ends⟩

/-- A sequence behind something that leaves its blanks may begin at these blanks. -/
theorem Star.trimmable {mark : Char} (h : Trimmable item) {start mid : List Char} {as : List α}
    (hs : Star (Behind mark item) start as rest) (hmid : Blanks mid start) (hends : Ends cs mid) :
    ∃ last, Star (Behind mark item) mid as last ∧ Blanks last rest ∧ Ends cs last := by
  induction hs generalizing mid with
  | nil start => exact ⟨mid, .nil mid, hmid, hends⟩
  | cons head tail ih =>
    obtain ⟨before, after, hitem⟩ := head
    next inner text =>
    obtain ⟨itemMid, hitem, hblanks, hitemEnds⟩ := h hitem
    have hsuffix : text <:+ cs := by
      obtain ⟨front, c, rfl, -⟩ := hends
      have hinner := (local_blanks.suffix after).trans (List.suffix_cons mark inner)
      have htext := hinner.trans (local_blanks.suffix (hmid.trans before))
      exact htext.trans ((List.suffix_cons c mid).trans (List.suffix_append ..))
    obtain ⟨last, htail, hlast, hlastEnds⟩ := ih hblanks (hitemEnds.of_suffix hsuffix)
    exact ⟨last, .cons (.behind (hmid.trans before) after hitem) htail, hlast, hlastEnds⟩

theorem trimmable_group {node : Rule Predicate} (h : ∀ p, Local (node · p ·)) :
    Trimmable (Group node) := by
  rintro cs ps rest (⟨before, first, others, after⟩ | hleaf)
  · have hsuffix := (local_inside h (_ :: _)).suffix ⟨_, ⟨_, ⟨_, before, first⟩, others⟩, after⟩
    exact ⟨rest, .nodes before first others after, .refl rest,
      (ends_cons (by decide) rest).of_suffix (hsuffix.trans (List.suffix_cons ..))⟩
  · obtain ⟨mid, hleaf, hmid, hends⟩ := trimmable_leaf hleaf
    exact ⟨mid, .leaf hleaf, hmid, hends⟩

/-- **A node may leave the blanks behind it**. -/
theorem trimmable_node : Trimmable Node := by
  rintro cs _ rest ⟨leaf, conjuncts, disjuncts⟩
  have hgroup := trimmable_group local_node
  obtain ⟨mid₁, leaf, hmid₁, hends₁⟩ := trimmable_leaf leaf
  obtain ⟨mid₂, conjuncts, hmid₂, hends₂⟩ := conjuncts.trimmable hgroup hmid₁ hends₁
  obtain ⟨mid, disjuncts, hmid, hends⟩ := disjuncts.trimmable hgroup hmid₂ hends₂
  exact ⟨mid, .node leaf conjuncts disjuncts, hmid, hends⟩

end Trimmable

/-- **In front of what a node leaves there is an expression**, with only blanks between them and
without white space at its end. -/
theorem Node.exists_derives {cs rest : List Char} {p : Predicate} (h : Node cs p rest) :
    ∃ taken run, cs = taken ++ (run ++ rest) ∧ run.all isBlank = true ∧ Derives taken p ∧
      ∀ c ∈ taken.getLast?, Unicode.isWhiteSpace c = false := by
  obtain ⟨mid, hnode, ⟨run, hrun, rfl⟩, text, c, htext, hc⟩ := trimmable_node h
  obtain ⟨taken, htaken, hlocal⟩ := local_node p hnode
  have hderives := hlocal [] (.nil _)
  rw [List.append_nil] at hderives
  refine ⟨taken, run, htaken, hrun, hderives, ?_⟩
  have hlast : taken = text ++ [c] := by
    refine List.append_cancel_right (htaken.symm.trans ?_)
    rw [htext, List.append_assoc, List.singleton_append]
  rw [hlast]
  simpa using hc

end Grammar

end Expression

end ParamSql
