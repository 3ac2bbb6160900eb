import ParamSql.Expression

/-!
# The grammar of predicate expressions

The grammar, apart from any reader.  A rule relates a text to a value and to a rest of the
text: the text begins with something that denotes the value, and the rest is what is left.
A rule leaves every choice open.  Blanks may be taken or left, a sequence may end anywhere,
and an alternative is not preferred for coming first; only an identifier is as long as it
can be.

    node   ::=  leaf (B '&' B group)* (B '|' B group)*
    group  ::=  '(' B node (B ',' B node)* B ')'  |  leaf
    leaf   ::=  fold B op? B '?'?
    fold   ::=  'upper(lower(' B path B '))'  |  'lower(' B path B ')'
             |  'upper(' B path B ')'  |  path
    path   ::=  ident ('.' ident)?

## Main definitions

* `Grammar.Rule`: what a part of the grammar says about a text
* `Grammar.Ident`, `Grammar.Path`, `Grammar.Fold`, `Grammar.Op`, `Grammar.Leaf`
* `Grammar.Star`, `Grammar.Behind`, `Grammar.Group`, `Grammar.Node`
* `Derives`: a whole text denotes a predicate

## Main results

* `Grammar.Node.induction`: induction over nodes, those inside parentheses included
* `Grammar.solid_node`: a node begins with no blank and takes some text
-/

namespace ParamSql.Expression

namespace Grammar

/-- A part of the grammar: the texts it begins, what it denotes there, and what it leaves. -/
abbrev Rule (α : Type) := List Char → α → List Char → Prop

/-! ## Tokens -/

/-- `B`: any run of blanks. -/
def Blanks (cs rest : List Char) : Prop := ∃ run, run.all isBlank = true ∧ cs = run ++ rest

theorem Blanks.refl (cs : List Char) : Blanks cs cs := ⟨[], rfl, rfl⟩

theorem blanks_skipBlanks (cs : List Char) : Blanks cs (skipBlanks cs) :=
  ⟨cs.takeWhile isBlank, List.all_takeWhile, (List.takeWhile_append_dropWhile).symm⟩

theorem skipBlanks_cons {c : Char} (h : isBlank c = false) (cs : List Char) :
    skipBlanks (c :: cs) = c :: cs := by
  rw [skipBlanks, List.dropWhile_cons, if_neg (by simp [h])]

theorem Blanks.skipBlanks_eq {cs rest : List Char} (h : Blanks cs rest) :
    skipBlanks cs = skipBlanks rest := by
  obtain ⟨run, hrun, rfl⟩ := h
  exact List.dropWhile_append_of_pos (by simpa using hrun)

theorem Blanks.length_le {cs rest : List Char} (h : Blanks cs rest) :
    rest.length ≤ cs.length := by
  obtain ⟨run, -, rfl⟩ := h
  simp

/-- A letter or an underscore, and the longest run of characters that continue it. -/
inductive Ident : Rule String where
  | run {c : Char} {run rest : List Char} (start : isIdentStart c = true)
      (continues : run.all isIdentRest = true)
      (longest : ∀ d ∈ rest.head?, isIdentRest d = false) :
      Ident (c :: (run ++ rest)) (String.ofList (c :: run)) rest

/-- The symbol of a comparison, or nothing at all for `=`. -/
inductive Op : Rule Comparison where
  | symbol (op : Comparison) (rest : List Char) : Op (op.symbol.toList ++ rest) op rest
  | missing (rest : List Char) : Op rest .eq rest

/-- A question mark, or nothing at all. -/
inductive Mark : List Char → List Char → Prop where
  | mark (rest : List Char) : Mark ('?' :: rest) rest
  | missing (rest : List Char) : Mark rest rest

/-! ## Leaves -/

/-- A column, with a table in front of it or without. -/
inductive Path : Rule Expression.Path where
  | column {cs rest : List Char} {name : String} (h : Ident cs name rest) :
      Path cs ⟨none, name⟩ rest
  | qualified {cs more rest : List Char} {table name : String} (ht : Ident cs table ('.' :: more))
      (hn : Ident more name rest) : Path cs ⟨some table, name⟩ rest

/-- A path between an opening and a closing symbol, blanks inside. -/
inductive Enclosed (opening closing : String) : Rule Expression.Path where
  | between {inner cs more rest : List Char} {p : Expression.Path} (before : Blanks inner cs)
      (h : Path cs p more) (after : Blanks more (closing.toList ++ rest)) :
      Enclosed opening closing (opening.toList ++ inner) p rest

/-- A path with the folding of letter case around it; the leaf compares by `=`. -/
inductive Fold : Rule ParamSql.Leaf where
  | both {cs rest : List Char} {p : Expression.Path}
      (h : Enclosed "upper(lower(" "))" cs p rest) :
      Fold cs ⟨p.column, p.table, .eq, true, true⟩ rest
  | lower {cs rest : List Char} {p : Expression.Path} (h : Enclosed "lower(" ")" cs p rest) :
      Fold cs ⟨p.column, p.table, .eq, true, false⟩ rest
  | upper {cs rest : List Char} {p : Expression.Path} (h : Enclosed "upper(" ")" cs p rest) :
      Fold cs ⟨p.column, p.table, .eq, false, true⟩ rest
  | plain {cs rest : List Char} {p : Expression.Path} (h : Path cs p rest) :
      Fold cs ⟨p.column, p.table, .eq, false, false⟩ rest

/-- A comparison of a column with a value to come. -/
inductive Leaf : Rule ParamSql.Leaf where
  | leaf {cs r₁ r₂ r₃ r₄ rest : List Char} {l : ParamSql.Leaf} {op : Comparison}
      (fold : Fold cs l r₁) (before : Blanks r₁ r₂) (symbol : Op r₂ op r₃) (after : Blanks r₃ r₄)
      (mark : Mark r₄ rest) : Leaf cs { l with op := op } rest

/-! ## Nodes -/

section Sequences

variable {α : Type}

/-- Any number of things in a row. -/
inductive Star (item : Rule α) : Rule (List α) where
  | nil (cs : List Char) : Star item cs [] cs
  | cons {cs more rest : List Char} {a : α} {as : List α} (head : item cs a more)
      (tail : Star item more as rest) : Star item cs (a :: as) rest

/-- A symbol between blanks, and something behind it. -/
inductive Behind (mark : Char) (item : Rule α) : Rule α where
  | behind {cs more text rest : List Char} {a : α} (before : Blanks cs (mark :: more))
      (after : Blanks more text) (h : item text a rest) : Behind mark item cs a rest

end Sequences

/-- Nodes in parentheses with commas between them, or one leaf. -/
inductive Group (node : Rule Predicate) : Rule (List Predicate) where
  | nodes {inner cs r₁ r₂ rest : List Char} {p : Predicate} {ps : List Predicate}
      (before : Blanks inner cs) (first : node cs p r₁) (others : Star (Behind ',' node) r₁ ps r₂)
      (after : Blanks r₂ (')' :: rest)) : Group node ('(' :: inner) (p :: ps) rest
  | leaf {cs rest : List Char} {l : ParamSql.Leaf} (h : Leaf cs l rest) :
      Group node cs [⟨l, [], []⟩] rest

/-- A leaf with the groups behind `&` and the groups behind `|`, the nodes of each in a row. -/
inductive Node : Rule Predicate where
  | node {cs r₁ r₂ rest : List Char} {l : ParamSql.Leaf} {ands ors : List (List Predicate)}
      (leaf : Leaf cs l r₁) (conjuncts : Star (Behind '&' (Group Node)) r₁ ands r₂)
      (disjuncts : Star (Behind '|' (Group Node)) r₂ ors rest) :
      Node cs ⟨l, ands.flatten, ors.flatten⟩ rest

/-- **A rule that admits what the grammar builds from it admits every node**: the rule may
suppose that the nodes inside parentheses are nodes and that it admits them. -/
theorem Node.induction {motive : Rule Predicate}
    (node : ∀ {cs r₁ r₂ rest : List Char} {l : ParamSql.Leaf} {ands ors : List (List Predicate)},
      Leaf cs l r₁ →
      Star (Behind '&' (Group fun cs p rest => Node cs p rest ∧ motive cs p rest)) r₁ ands r₂ →
      Star (Behind '|' (Group fun cs p rest => Node cs p rest ∧ motive cs p rest)) r₂ ors rest →
      motive cs ⟨l, ands.flatten, ors.flatten⟩ rest)
    {cs rest : List Char} {p : Predicate} (h : Node cs p rest) : motive cs p rest := by
  let inside : Rule Predicate := fun cs p rest => Node cs p rest ∧ motive cs p rest
  -- One motive for each place where a node may stand: there, `inside` takes its place.
  have hinside : inside cs p rest := @Node.rec
    (fun cs p rest _ => inside cs p rest)
    (fun cs ands rest _ => Star (Behind '&' (Group inside)) cs ands rest)
    (fun cs ors rest _ => Star (Behind '|' (Group inside)) cs ors rest)
    (fun cs ps rest _ => Behind '&' (Group inside) cs ps rest)
    (fun cs ps rest _ => Behind '|' (Group inside) cs ps rest)
    (fun cs ps rest _ => Group inside cs ps rest)
    (fun cs ps rest _ => Star (Behind ',' inside) cs ps rest)
    (fun cs p rest _ => Behind ',' inside cs p rest)
    (fun leaf conjuncts disjuncts hc hd => ⟨.node leaf conjuncts disjuncts, node leaf hc hd⟩)
    .nil (fun _ _ head tail => .cons head tail)
    .nil (fun _ _ head tail => .cons head tail)
    (fun before after _ group => .behind before after group)
    (fun before after _ group => .behind before after group)
    (fun before _ _ after first others => .nodes before first others after)
    (fun leaf => .leaf leaf)
    .nil (fun _ _ head tail => .cons head tail)
    (fun before after _ node => .behind before after node) _ _ _ h
  exact hinside.2

/-! ## Progress -/

section Solid

variable {α : Type} {rule item : Rule α}

/-- What the rule admits begins with no blank and takes some text. -/
structure Solid (rule : Rule α) : Prop where
  tight : ∀ {cs a rest}, rule cs a rest → skipBlanks cs = cs
  shorter : ∀ {cs a rest}, rule cs a rest → rest.length < cs.length

theorem isBlank_of_isIdentStart {c : Char} (h : isIdentStart c = true) : isBlank c = false := by
  cases hb : isBlank c with
  | false => rfl
  | true =>
    simp only [isBlank, Bool.or_eq_true, beq_iff_eq] at hb
    rcases hb with ((rfl | rfl) | rfl) | rfl <;> cases h

theorem solid_ident : Solid Ident where
  tight := by
    rintro _ _ _ ⟨start, -, -⟩
    exact skipBlanks_cons (isBlank_of_isIdentStart start) _
  shorter := by
    rintro _ _ _ ⟨-, -, -⟩
    simp only [List.length_cons, List.length_append]
    omega

theorem solid_path : Solid Path where
  tight := by
    rintro _ _ _ (h | ⟨ht, -⟩)
    · exact solid_ident.tight h
    · exact solid_ident.tight ht
  shorter := by
    rintro _ _ _ (h | ⟨ht, hn⟩)
    · exact solid_ident.shorter h
    · have htable := solid_ident.shorter ht
      have hname := solid_ident.shorter hn
      rw [List.length_cons] at htable
      omega

theorem Enclosed.length_lt {opening closing : String} {cs rest : List Char}
    {p : Expression.Path} (h : Enclosed opening closing cs p rest) : rest.length < cs.length := by
  obtain ⟨before, path, after⟩ := h
  have hbefore := before.length_le
  have hpath := solid_path.shorter path
  have hafter := after.length_le
  rw [List.length_append] at hafter ⊢
  omega

theorem solid_fold : Solid Fold where
  tight := by
    rintro _ _ _ (⟨-, -, -⟩ | ⟨-, -, -⟩ | ⟨-, -, -⟩ | h)
    · rfl
    · rfl
    · rfl
    · exact solid_path.tight h
  shorter := by
    rintro _ _ _ (h | h | h | h)
    · exact h.length_lt
    · exact h.length_lt
    · exact h.length_lt
    · exact solid_path.shorter h

theorem Op.length_le {cs rest : List Char} {op : Comparison} (h : Op cs op rest) :
    rest.length ≤ cs.length := by
  rcases h with ⟨-, -⟩ | - <;> simp

theorem Mark.length_le {cs rest : List Char} (h : Mark cs rest) : rest.length ≤ cs.length := by
  rcases h with - | - <;> simp

theorem solid_leaf : Solid Leaf where
  tight := by
    rintro _ _ _ ⟨fold, -, -, -, -⟩
    exact solid_fold.tight fold
  shorter := by
    rintro _ _ _ ⟨fold, before, symbol, after, mark⟩
    have hfold := solid_fold.shorter fold
    have hbefore := before.length_le
    have hsymbol := symbol.length_le
    have hafter := after.length_le
    have hmark := mark.length_le
    omega

theorem Solid.behind (h : Solid item) {mark : Char} {cs rest : List Char} {a : α}
    (hb : Behind mark item cs a rest) : rest.length < cs.length := by
  obtain ⟨before, after, hitem⟩ := hb
  have hbefore := before.length_le
  have hafter := after.length_le
  have hshorter := h.shorter hitem
  rw [List.length_cons] at hbefore
  omega

theorem Solid.star (h : Solid item) {mark : Char} {cs rest : List Char} {as : List α}
    (hs : Star (Behind mark item) cs as rest) : rest.length ≤ cs.length := by
  induction hs with
  | nil => exact Nat.le_refl _
  | cons head tail ih =>
    have hhead := h.behind head
    omega

theorem Solid.group {node : Rule Predicate} (h : Solid node) : Solid (Group node) where
  tight := by
    rintro _ _ _ (⟨-, -, -, -⟩ | hleaf)
    · rfl
    · exact solid_leaf.tight hleaf
  shorter := by
    rintro _ _ _ (⟨before, first, others, after⟩ | hleaf)
    · have hbefore := before.length_le
      have hfirst := h.shorter first
      have hothers := h.star others
      have hafter := after.length_le
      rw [List.length_cons] at hafter ⊢
      omega
    · exact solid_leaf.shorter hleaf

theorem solid_node : Solid Node := by
  let motive : Rule Predicate := fun cs _ rest => skipBlanks cs = cs ∧ rest.length < cs.length
  have hinside : Solid fun cs p rest => Node cs p rest ∧ motive cs p rest :=
    ⟨fun h => h.2.1, fun h => h.2.2⟩
  have hnode : ∀ {cs p rest}, Node cs p rest → motive cs p rest := by
    intro cs p rest h
    refine Node.induction (fun leaf conjuncts disjuncts => ?_) h
    have hleaf := solid_leaf.shorter leaf
    have hconjuncts := hinside.group.star conjuncts
    have hdisjuncts := hinside.group.star disjuncts
    exact ⟨solid_leaf.tight leaf, by omega⟩
  exact ⟨fun h => (hnode h).1, fun h => (hnode h).2⟩

end Solid

end Grammar

/-- A whole text denotes a predicate. -/
def Derives (cs : List Char) (p : Predicate) : Prop := Grammar.Node cs p []

end ParamSql.Expression
