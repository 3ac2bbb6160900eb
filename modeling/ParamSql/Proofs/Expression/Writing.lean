import ParamSql.Proofs.Expression.Completeness
import ParamSql.Proofs.Expression.Identifier
import ParamSql.Sql.Condition

/-!
# Every predicate can be written as an expression

A predicate is written as an expression by its comparison, as SQL has it, with its `ands` in one
group behind `&` and its `ors` in one group behind `|`.  Every place where the text of a part
ends is told by the character behind it: behind a name stands none that continues it, and the
question mark of a comparison and the parenthesis of a group end what is in front of them.  So a
node is derived from its text in front of any text whatever, and by induction over the tree this
holds of trees of any depth.  No name is excluded: a column may be called like a folding.

## Main definitions

* `Predicate.expression`: the predicate as an expression

## Main results

* `Expression.Grammar.node_expression`: what is written for a predicate denotes it, whatever
  stands behind it
* `Expression.parse_expression`: what is written for a predicate is read as that predicate
-/

namespace ParamSql

/-! ## Writing -/

/-- The group of further nodes behind its sign, or nothing if there are none. -/
def Expression.signed (sign : Char) (texts : List String) : String :=
  if texts.isEmpty then ""
  else String.ofList [sign, '('] ++ String.intercalate "," texts ++ ")"

namespace Predicate

mutual

/-- The predicate as an expression: the comparison, the group of `ands` and the group of `ors`. -/
def expression : Predicate → String
  | ⟨leaf, ands, ors⟩ =>
    leaf.sql ++ Expression.signed '&' (expressions ands) ++ Expression.signed '|' (expressions ors)

/-- Each node of a list as an expression. -/
def expressions : List Predicate → List String
  | [] => []
  | p :: ps => expression p :: expressions ps

end

theorem expressions_eq_map (ps : List Predicate) : expressions ps = ps.map expression := by
  induction ps with
  | nil => rfl
  | cons p ps ih => rw [expressions, ih, List.map_cons]

theorem toList_expression (leaf : Leaf) (ands ors : List Predicate) :
    (expression ⟨leaf, ands, ors⟩).toList =
      leaf.sql.toList ++ ((Expression.signed '&' (ands.map expression)).toList ++
        (Expression.signed '|' (ors.map expression)).toList) := by
  rw [expression, expressions_eq_map, expressions_eq_map, String.toList_append,
    String.toList_append, List.append_assoc]

end Predicate

namespace Expression

/-! ## Columns -/

/-- The text does not go on with an identifier. -/
def EndsIdentifier (cs : List Char) : Prop := ∀ c ∈ cs.head?, isIdentRest c = false

theorem endsIdentifier_cons {c : Char} (hc : c.toNat < 0xAA)
    (hrest : (c.isAlphanum || c == '_') = false) (cs : List Char) : EndsIdentifier (c :: cs) := by
  rintro d ⟨⟩
  rw [isIdentRest_of_lt hc, hrest]

theorem IsIdentifier.ident {name : String} (h : IsIdentifier name) {rest : List Char}
    (hrest : EndsIdentifier rest) : Grammar.Ident (name.toList ++ rest) name rest := by
  obtain ⟨c, cs, hname, hstart, hcs⟩ := h
  have hname : name = String.ofList (c :: cs) := by rw [← hname, String.ofList_toList]
  rw [hname, String.toList_ofList]
  exact .run hstart hcs hrest

namespace Grammar

variable {l : ParamSql.Leaf} {rest : List Char}

theorem path_qualified (h : ∀ name ∈ l.names, IsIdentifier name) (hrest : EndsIdentifier rest) :
    Path ((Sql.qualified l.table l.column).toList ++ rest) ⟨l.table, l.column⟩ rest := by
  have hcolumn : IsIdentifier l.column := h l.column (by simp [ParamSql.Leaf.names])
  cases htable : l.table with
  | none => exact .column (hcolumn.ident hrest)
  | some t =>
    have ht : IsIdentifier t := h t (by simp [ParamSql.Leaf.names, htable])
    have hpoint : ∀ cs, EndsIdentifier ('.' :: cs) := endsIdentifier_cons (by decide) (by decide)
    rw [Sql.qualified, String.toList_append, String.toList_append, List.append_assoc,
      List.append_assoc]
    exact .qualified (ht.ident (hpoint _)) (hcolumn.ident hrest)

/-- A column is written with its foldings around it. -/
theorem fold_operand (h : ∀ name ∈ l.names, IsIdentifier name) (hrest : EndsIdentifier rest) :
    Fold (l.operand.toList ++ rest) { l with op := .eq } rest := by
  have hclose : ∀ cs, EndsIdentifier (')' :: cs) := endsIdentifier_cons (by decide) (by decide)
  have henclosed : ∀ (opening closing : String) {more : List Char},
      closing.toList = ')' :: more →
        Enclosed opening closing (opening.toList ++ ((Sql.qualified l.table l.column).toList ++
          (closing.toList ++ rest))) ⟨l.table, l.column⟩ rest := by
    intro opening closing more hclosing
    have hends : EndsIdentifier (closing.toList ++ rest) := by
      rw [hclosing]
      exact hclose _
    exact .between (.refl _) (path_qualified h hends) (.refl _)
  obtain ⟨column, table, op, lower, upper⟩ := l
  cases lower <;> cases upper
  · exact .plain (path_qualified h hrest)
  · have hupper := henclosed "upper(" ")" rfl
    simpa [ParamSql.Leaf.operand] using Fold.upper hupper
  · have hlower := henclosed "lower(" ")" rfl
    simpa [ParamSql.Leaf.operand] using Fold.lower hlower
  · have hboth := henclosed "upper(lower(" "))" rfl
    simpa [ParamSql.Leaf.operand] using Fold.both hboth

/-- **A comparison is an expression** as SQL writes it. -/
theorem leaf_sql (h : ∀ name ∈ l.names, IsIdentifier name) (rest : List Char) :
    Leaf (l.sql.toList ++ rest) l rest := by
  have hsymbol : EndsIdentifier (l.op.symbol.toList ++ '?' :: rest) := by
    cases l.op <;> exact endsIdentifier_cons (by decide) (by decide) _
  have hleaf := Leaf.leaf (fold_operand h hsymbol) (.refl _) (.symbol l.op _) (.refl _) (.mark rest)
  simpa [ParamSql.Leaf.sql] using hleaf

/-! ## Nodes -/

section Groups

variable {as : List Predicate}

/-- Nodes behind commas are read one after the other. -/
theorem star_listed (has : ∀ p ∈ as, ∀ rest, Node (p.expression.toList ++ rest) p rest)
    (rest : List Char) :
    Star (Behind ',' Node) (as.flatMap (fun p => ",".toList ++ p.expression.toList) ++ rest) as
      rest := by
  induction as with
  | nil => exact .nil rest
  | cons p ps ih =>
    obtain ⟨hp, hps⟩ := List.forall_mem_cons.mp has
    rw [List.flatMap_cons, List.append_assoc, List.append_assoc]
    exact .cons (.behind (.refl _) (.refl _) (hp _)) (ih hps)

/-- What is written for further nodes is one group that yields them, or no group at all. -/
theorem star_signed (sign : Char)
    (has : ∀ p ∈ as, ∀ rest, Node (p.expression.toList ++ rest) p rest) (rest : List Char) :
    ∃ groups : List (List Predicate), groups.flatten = as ∧
      Star (Behind sign (Group Node))
        ((signed sign (as.map Predicate.expression)).toList ++ rest) groups rest := by
  cases as with
  | nil => exact ⟨[], rfl, .nil rest⟩
  | cons p ps =>
    obtain ⟨hp, hps⟩ := List.forall_mem_cons.mp has
    have hgroup : Group Node ('(' :: (p.expression.toList ++
        (ps.flatMap (fun q => ",".toList ++ q.expression.toList) ++ ')' :: rest))) (p :: ps) rest :=
      .nodes (.refl _) (hp _) (star_listed hps _) (.refl _)
    refine ⟨[p :: ps], by simp, ?_⟩
    have htext : (signed sign ((p :: ps).map Predicate.expression)).toList ++ rest =
        sign :: '(' :: (p.expression.toList ++
          (ps.flatMap (fun q => ",".toList ++ q.expression.toList) ++ ')' :: rest)) := by
      rw [signed, if_neg (by simp), List.map_cons, String.toList_append, String.toList_append,
        Sql.toList_intercalate_cons]
      simp
    rw [htext]
    exact .cons (.behind (.refl _) (.refl _) hgroup) (.nil rest)

end Groups

/-- **What is written for a predicate denotes it**, whatever stands behind it. -/
theorem node_expression {p : Predicate} (h : ∀ name ∈ p.names, IsIdentifier name)
    (rest : List Char) : Node (p.expression.toList ++ rest) p rest := by
  induction p using Predicate.induction generalizing rest with
  | node leaf ands ors iha iho =>
    obtain ⟨hleaf, hands, hors⟩ := Predicate.forall_names_mk.mp h
    obtain ⟨conjuncts, hconjuncts, hstarAnds⟩ := star_signed '&'
      (fun q hq => iha q hq (hands q hq))
      ((signed '|' (ors.map Predicate.expression)).toList ++ rest)
    obtain ⟨disjuncts, hdisjuncts, hstarOrs⟩ := star_signed '|'
      (fun q hq => iho q hq (hors q hq)) rest
    rw [Predicate.toList_expression, List.append_assoc, List.append_assoc, ← hconjuncts,
      ← hdisjuncts]
    rw [← hconjuncts] at hstarAnds
    rw [← hdisjuncts] at hstarAnds hstarOrs
    exact .node (leaf_sql hleaf _) hstarAnds hstarOrs

/-! ## The ends of an expression -/

/-- An expression begins with a letter or an underscore. -/
theorem Node.isIdentStart_head {cs rest : List Char} {p : Predicate} (h : Node cs p rest) :
    ∃ c ∈ cs.head?, isIdentStart c = true := by
  have hident : ∀ {cs name rest}, Ident cs name rest → ∃ c ∈ cs.head?, isIdentStart c = true := by
    rintro _ _ _ ⟨start, -, -⟩
    exact ⟨_, rfl, start⟩
  obtain ⟨⟨fold, -, -, -, -⟩, -, -⟩ := h
  rcases fold with ⟨-, -, -⟩ | ⟨-, -, -⟩ | ⟨-, -, -⟩ | (h | ⟨ht, -⟩)
  · exact ⟨'u', rfl, rfl⟩
  · exact ⟨'l', rfl, rfl⟩
  · exact ⟨'u', rfl, rfl⟩
  · exact hident h
  · exact hident ht

end Grammar

/-- What is written for a predicate ends in a question mark or a parenthesis. -/
theorem getLast?_expression (p : Predicate) :
    p.expression.toList.getLast? = some '?' ∨ p.expression.toList.getLast? = some ')' := by
  obtain ⟨leaf, ands, ors⟩ := p
  have hsigned : ∀ sign texts, signed sign texts = "" ∨
      (signed sign texts).toList.getLast? = some ')' := by
    intro sign texts
    rw [signed]
    split
    · exact .inl rfl
    · exact .inr (by rw [String.toList_append, List.getLast?_append]; rfl)
  have hleaf : leaf.sql.toList.getLast? = some '?' := by simp [Leaf.sql]
  rw [Predicate.toList_expression, List.getLast?_append, List.getLast?_append, hleaf]
  rcases hsigned '&' (ands.map Predicate.expression) with hands | hands <;>
    rcases hsigned '|' (ors.map Predicate.expression) with hors | hors <;> simp [hands, hors]

end Expression

/-! ## Reading back -/

/-- Nothing is trimmed off a text without white space at its ends. -/
theorem Unicode.trim_eq_self {cs : List Char} (hfirst : ∀ c ∈ cs.head?, isWhiteSpace c = false)
    (hlast : ∀ c ∈ cs.getLast?, isWhiteSpace c = false) : trim cs = cs := by
  have hdrop : ∀ {cs : List Char}, (∀ c ∈ cs.head?, isWhiteSpace c = false) →
      cs.dropWhile isWhiteSpace = cs := by
    intro cs h
    cases cs with
    | nil => rfl
    | cons c cs => rw [List.dropWhile_cons, if_neg (by simp [h c rfl])]
  rw [trim, trimEnd, hdrop hfirst, hdrop (by simpa [List.head?_reverse] using hlast),
    List.reverse_reverse]

namespace Expression

theorem isWhiteSpace_of_isIdentStart {c : Char} (h : isIdentStart c = true) :
    Unicode.isWhiteSpace c = false := by
  have hrange : 65 ≤ c.val.toNat ∧ c.val.toNat ≤ 122 := by
    delta isIdentStart Char.isAlpha Char.isUpper Char.isLower at h
    simp only [Bool.or_eq_true, Bool.and_eq_true, decide_eq_true_eq, beq_iff_eq, ge_iff_le,
      UInt32.le_iff_toNat_le] at h
    rcases h with (⟨hlow, hhigh⟩ | ⟨hlow, hhigh⟩) | rfl
    · exact ⟨hlow, Nat.le_trans hhigh (by decide)⟩
    · exact ⟨Nat.le_trans (by decide) hlow, hhigh⟩
    · decide
  simp only [Unicode.isWhiteSpace, Char.toNat, Bool.or_eq_false_iff, Bool.and_eq_false_iff,
    decide_eq_false_iff_not, beq_eq_false_iff_ne]
  omega

/-- **Every predicate can be written as an expression**: whatever the depth of the tree, as long
as its names are identifiers, what is written for it is read as that tree. -/
theorem parse_expression {p : Predicate} (h : ∀ name ∈ p.names, IsIdentifier name) :
    parse p.expression = .ok p := by
  have hnode : Grammar.Node p.expression.toList p [] := by
    have hempty := Grammar.node_expression h []
    rwa [List.append_nil] at hempty
  have htrim : Unicode.trim p.expression.toList = p.expression.toList := by
    refine Unicode.trim_eq_self ?_ ?_
    · obtain ⟨c, hc, hstart⟩ := hnode.isIdentStart_head
      intro d hd
      obtain rfl := Option.mem_unique hc hd
      exact isWhiteSpace_of_isIdentStart hstart
    · intro c hc
      rcases getLast?_expression p with hlast | hlast
      · rw [hlast] at hc
        cases hc
        decide
      · rw [hlast] at hc
        cases hc
        decide
  rw [parse, htrim]
  exact parseTrimmed_eq_ok_iff.mpr hnode

/-- Columns and tables that are called like the foldings, and groups within groups. -/
theorem parse_expression_nested :
    let b : Predicate := ⟨⟨"b", none, .lt, false, false⟩, [], []⟩
    let lower : Predicate := ⟨⟨"lower", none, .ne, true, false⟩, [b], [b]⟩
    let upper : Predicate := ⟨⟨"upper", none, .eq, false, false⟩, [], [lower, b]⟩
    let p : Predicate := ⟨⟨"upper", some "lower", .ge, true, true⟩, [upper, lower], [upper]⟩
    p.expression = "upper(lower(lower.upper))>=?" ++
      "&(upper=?|(lower(lower)!=?&(b<?)|(b<?),b<?),lower(lower)!=?&(b<?)|(b<?))" ++
      "|(upper=?|(lower(lower)!=?&(b<?)|(b<?),b<?))" ∧ parse p.expression = .ok p := by
  intro b lower upper p
  have hidentifiers : ∀ name ∈ ["lower", "upper", "b"], IsIdentifier name := by
    simp only [List.forall_mem_cons]
    exact ⟨⟨_, _, rfl, by decide, by decide⟩, ⟨_, _, rfl, by decide, by decide⟩,
      ⟨_, _, rfl, by decide, by decide⟩, nofun⟩
  have hnames : p.names ⊆ ["lower", "upper", "b"] := by decide
  exact ⟨by decide +kernel, parse_expression fun name hname => hidentifiers name (hnames hname)⟩

end Expression

end ParamSql
