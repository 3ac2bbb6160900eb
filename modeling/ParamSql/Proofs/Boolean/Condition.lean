import ParamSql.Proofs.Boolean.Comparison
import ParamSql.Proofs.Reader

/-!
# Conditions are read back

The text of a predicate whose names are names of SQL is read as one boolean expression, and
that expression has the comparisons of the predicate in their order and its truth.  What
carries the induction is that every node is written as a primary: a comparison, or a text in
parentheses that ends with the one it began with, so that nothing behind it belongs to it and
the precedence of `AND` over `OR` never reaches inside.

## Main definitions

* `Sql.Primary text e`: the text is read as the primary `e`, whatever follows
* `Sql.Conjunction text e`: the text is read as the conjunction `e`, unless `AND` follows

## Main results

* `Sql.Primary.grouped_and`, `Sql.Primary.grouped_or`: groups of primaries are primaries
* `Sql.Primary.readCondition_precedence`: `AND` binds tighter than `OR`
* `Predicate.primary_condition`: every predicate is written as a primary
* `Predicate.readCondition_condition`: a condition is read back with its comparisons and truth
-/

namespace ParamSql

namespace Sql

/-! ## Keywords -/

theorem word_space (cs : List Char) : word (' ' :: cs) = word cs := by
  simp [word, skipSpace, show isSpace ' ' = true from rfl]

theorem keyword_append {k : String} {w : List Char} (hw : isWord w = true) (rest : List Char) :
    keyword k (' ' :: w ++ ' ' :: rest) =
      if spells k w then some ((), ' ' :: rest) else none := by
  have hspace : EndsWord (' ' :: rest) := endsWord_cons rfl rest
  rw [keyword, List.cons_append, word_space, word_append hw hspace]

theorem keyword_close (k : String) (rest : List Char) : keyword k (')' :: rest) = none := rfl

theorem keyword_nil (k : String) : keyword k [] = none := rfl

/-- The text begins with a character that is no white space. -/
def Tight (cs : List Char) : Prop := ∃ c more, cs = c :: more ∧ isSpace c = false

theorem Tight.skipSpace_append {cs : List Char} (h : Tight cs) (rest : List Char) :
    skipSpace (cs ++ rest) = cs ++ rest := by
  obtain ⟨c, more, rfl, hc⟩ := h
  exact skipSpace_cons hc _

theorem Tight.append {cs : List Char} (h : Tight cs) (rest : List Char) : Tight (cs ++ rest) := by
  obtain ⟨c, more, rfl, hc⟩ := h
  exact ⟨c, more ++ rest, rfl, hc⟩

theorem behindKeyword_append {α : Type} {k : String} (reader : Reader α) {text : List Char}
    (hk : isWord k.toList = true) (hs : spells k k.toList = true) (ht : Tight text)
    (rest : List Char) :
    behindKeyword k reader (' ' :: k.toList ++ ' ' :: (text ++ rest)) = reader (text ++ rest) := by
  have hspace : skipSpace (' ' :: (text ++ rest)) = skipSpace (text ++ rest) := by
    simp [skipSpace, show isSpace ' ' = true from rfl]
  rw [behindKeyword, keyword_append hk, if_pos hs]
  simp only [hspace, ht.skipSpace_append]

/-! ## Joined operands -/

/-- Operands with a keyword between them are read up to a text in which that keyword does not
come next. -/
theorem joined_append {α : Type} {k : String} {join : BoolExpr → BoolExpr → BoolExpr}
    {operand : Reader BoolExpr} {first : List Char} {e : BoolExpr} {as : List α}
    {text : α → List Char} {value : α → BoolExpr} {rest : List Char} (stop : List Char → Prop)
    (hk : isWord k.toList = true) (hs : spells k k.toList = true)
    (hfirst : ∀ more, stop more → operand (first ++ more) = some (e, more))
    (hothers : ∀ a ∈ as, ∀ more, stop more → operand (text a ++ more) = some (value a, more))
    (htight : ∀ a ∈ as, Tight (text a)) (hnext : ∀ more, stop (' ' :: k.toList ++ ' ' :: more))
    (hend : stop rest) (hrest : keyword k rest = none) :
    joined k join operand
        (first ++ (as.flatMap (fun a => ' ' :: k.toList ++ ' ' :: text a) ++ rest)) =
      some ((as.map value).foldl join e, rest) := by
  have hstop : stop (as.flatMap (fun a => ' ' :: k.toList ++ ' ' :: text a) ++ rest) := by
    cases as with
    | nil => exact hend
    | cons a as => simpa using hnext _
  have hfail : behindKeyword k operand rest = none := by rw [behindKeyword, hrest]
  have hmany : Reader.many (behindKeyword k operand)
      (as.flatMap (fun a => ' ' :: k.toList ++ ' ' :: text a) ++ rest) =
        (as.map value, rest) := by
    refine Reader.many_flatMap (fun a more => ?_) hend hfail (fun a _ => by simp)
      fun a ha more hm => ?_
    · simpa using hnext (text a ++ more)
    · have hb := behindKeyword_append operand hk hs (htight a ha) more
      rw [hothers a ha more hm] at hb
      simpa using hb
  rw [joined, hfirst _ hstop]
  simp only [hmany]

/-- A single operand is read up to a text in which the keyword does not come next. -/
theorem joined_single {k : String} {join : BoolExpr → BoolExpr → BoolExpr}
    {operand : Reader BoolExpr} {e : BoolExpr} {cs rest : List Char}
    (h : operand cs = some (e, rest)) (hrest : keyword k rest = none) :
    joined k join operand cs = some (e, rest) := by
  have hfail : behindKeyword k operand rest = none := by rw [behindKeyword, hrest]
  rw [joined, h]
  simp only [Reader.many_of_none hfail, List.foldl_nil]

theorem readCondition_of_condition {text : String} {e : BoolExpr}
    (h : condition (text.toList.length + 1) text.toList = some (e, [])) :
    readCondition text = some e := by
  rw [readCondition, h]
  rfl

/-! ## Primaries -/

/-- The text is read as the primary `e`, whatever follows it, once parentheses may nest as deep
as the text is long. -/
structure Primary (text : String) (e : BoolExpr) : Prop where
  tight : Tight text.toList
  reads : ∀ depth rest, text.toList.length ≤ depth →
    primary (condition depth) (text.toList ++ rest) = some (e, rest)

/-- The text is read as the conjunction `e` in front of a text in which `AND` does not come next,
once parentheses may nest as deep as the text is long. -/
structure Conjunction (text : String) (e : BoolExpr) : Prop where
  tight : Tight text.toList
  reads : ∀ depth more, text.toList.length ≤ depth → keyword "AND" more = none →
    joined "AND" .and (primary (condition depth)) (text.toList ++ more) = some (e, more)

namespace Primary

/-- A primary alone is a conjunction. -/
theorem conjunction {text : String} {e : BoolExpr} (h : Primary text e) : Conjunction text e where
  tight := h.tight
  reads depth more hd hm := joined_single (h.reads depth more hd) hm

variable {α : Type} {first : String} {e : BoolExpr} {as : List α} {text : α → String}
  {value : α → BoolExpr}

/-- A comparison is a primary. -/
theorem test {l : Leaf} (h : ∀ name ∈ l.names, IsName name) : Primary l.sql (.test l) := by
  obtain ⟨c, cs, he, hc⟩ := exists_cons_sql h
  have hspace : isSpace c = false := isSpace_of_isWordStart hc
  have hopen : c ≠ '(' := by rintro rfl; exact absurd hc (by decide)
  refine ⟨⟨c, cs, he, hspace⟩, fun depth rest _ => ?_⟩
  have hmark : mark '(' (l.sql.toList ++ rest) = none := by
    rw [he]
    exact mark_ne hspace hopen _
  rw [primary, hmark]
  simp only [test_append h]

/-- A condition in parentheses is a primary. -/
theorem parenthesised {body : String}
    (h : ∀ depth rest, body.toList.length ≤ depth →
      condition (depth + 1) (body.toList ++ ')' :: rest) = some (e, ')' :: rest)) :
    Primary ("(" ++ body ++ ")") e := by
  have he : ∀ rest, ("(" ++ body ++ ")").toList ++ rest = '(' :: (body.toList ++ ')' :: rest) := by
    intro rest
    simp
  refine ⟨⟨'(', body.toList ++ [')'], by simp, rfl⟩, fun depth rest hd => ?_⟩
  obtain ⟨depth, rfl⟩ : ∃ d, depth = d + 1 := ⟨depth - 1, by simp at hd; omega⟩
  have hbody := h depth rest (by simp at hd; omega)
  rw [he, primary, mark_cons rfl]
  simp only [hbody, mark_cons (show isSpace ')' = false from rfl)]

/-- The texts of a group behind each other, each one behind its keyword. -/
theorem toList_intercalate_cons (k first : String) (as : List α) (text : α → String) :
    (String.intercalate (" " ++ k ++ " ") (first :: as.map text)).toList =
      first.toList ++ as.flatMap (fun a => ' ' :: k.toList ++ ' ' :: (text a).toList) := by
  rw [Sql.toList_intercalate_cons]
  simp

/-- No part of a group is longer than the group. -/
theorem length_le_intercalate (k first : String) (as : List α) (text : α → String) :
    first.toList.length ≤
        (String.intercalate (" " ++ k ++ " ") (first :: as.map text)).toList.length ∧
      ∀ a ∈ as, (text a).toList.length ≤
        (String.intercalate (" " ++ k ++ " ") (first :: as.map text)).toList.length := by
  rw [toList_intercalate_cons, List.length_append]
  refine ⟨Nat.le_add_right _ _, fun a ha => ?_⟩
  obtain ⟨before, after, rfl⟩ := List.append_of_mem ha
  rw [List.flatMap_append, List.flatMap_cons]
  simp only [List.length_append, List.length_cons]
  omega

section Grouped

variable {k : String} {join : BoolExpr → BoolExpr → BoolExpr}

/-- A group is a primary when its parts are read as operands of its keyword, and the operands
joined by that keyword, up to the closing parenthesis, as a condition. -/
theorem grouped (operand : Nat → Reader BoolExpr) (stop : List Char → Prop)
    (hk : isWord k.toList = true) (hs : spells k k.toList = true)
    (hclose : ∀ rest, stop (')' :: rest))
    (hnext : ∀ more, stop (' ' :: k.toList ++ ' ' :: more))
    (hoperand : ∀ {part : String} {e : BoolExpr}, Primary part e → ∀ depth more,
      part.toList.length ≤ depth → stop more →
        operand depth (part.toList ++ more) = some (e, more))
    (hcondition : ∀ {depth cs e rest}, joined k join (operand depth) cs = some (e, ')' :: rest) →
      condition (depth + 1) cs = some (e, ')' :: rest))
    (hf : Primary first e) (h : ∀ a ∈ as, Primary (text a) (value a)) :
    Primary (Sql.grouped (" " ++ k ++ " ") first (as.map text)) ((as.map value).foldl join e) := by
  cases as with
  | nil => exact hf
  | cons a as =>
    refine parenthesised fun depth rest hd => hcondition ?_
    -- no part is longer than the group, so the depth that is left suffices for each of them
    obtain ⟨hlf, hla⟩ := length_le_intercalate k first (a :: as) text
    have hjoined : joined k join (operand depth)
        (first.toList ++ ((a :: as).flatMap
          (fun a => ' ' :: k.toList ++ ' ' :: (text a).toList) ++ ')' :: rest)) =
          some (((a :: as).map value).foldl join e, ')' :: rest) :=
      joined_append stop hk hs
        (fun more hm => hoperand hf depth more (Nat.le_trans hlf hd) hm)
        (fun b hb more hm => hoperand (h b hb) depth more (Nat.le_trans (hla b hb) hd) hm)
        (fun b hb => (h b hb).tight) hnext (hclose rest) (keyword_close _ _)
    rwa [← List.append_assoc, ← toList_intercalate_cons] at hjoined

end Grouped

/-- **A group joined by `AND` is a primary**. -/
theorem grouped_and (hf : Primary first e) (h : ∀ a ∈ as, Primary (text a) (value a)) :
    Primary (Sql.grouped " AND " first (as.map text)) ((as.map value).foldl .and e) := by
  refine grouped (k := "AND") (fun depth => primary (condition depth)) (fun _ => True)
    rfl rfl (fun _ => trivial) (fun _ => trivial) ?_ ?_ hf h
  · intro part e hp depth more hd _
    exact hp.reads depth more hd
  · -- a conjunction is a condition with a single part
    intro depth cs e rest hjoined
    exact joined_single hjoined (keyword_close _ _)

/-- **A group joined by `OR` is a primary**: as `AND` comes in no text that follows one of its
parts, each part is a conjunction by itself. -/
theorem grouped_or (hf : Primary first e) (h : ∀ a ∈ as, Primary (text a) (value a)) :
    Primary (Sql.grouped " OR " first (as.map text)) ((as.map value).foldl .or e) := by
  refine grouped (k := "OR") (fun depth => joined "AND" .and (primary (condition depth)))
    (fun more => keyword "AND" more = none) rfl rfl (keyword_close _)
    (fun more => keyword_append rfl more) ?_ ?_ hf h
  · intro part e hp depth more hd hm
    exact hp.conjunction.reads depth more hd hm
  · intro depth cs e rest hjoined
    exact hjoined

/-! ## Precedence -/

section Precedence

variable {s t u : String} {a b c : BoolExpr}

/-- Two operands, or two conjunctions, with a keyword between them and no parentheses. -/
theorem joined_pair {k : String} {join : BoolExpr → BoolExpr → BoolExpr}
    {operand : Reader BoolExpr} {more : List Char} (stop : List Char → Prop)
    (hk : isWord k.toList = true) (hs : spells k k.toList = true) (ht : Tight t.toList)
    (hfirst : ∀ more, stop more → operand (s.toList ++ more) = some (a, more))
    (hsecond : ∀ more, stop more → operand (t.toList ++ more) = some (b, more))
    (hnext : ∀ more, stop (' ' :: k.toList ++ ' ' :: more)) (hend : stop more)
    (hmore : keyword k more = none) :
    joined k join operand ((s ++ (" " ++ k ++ " ") ++ t).toList ++ more) =
      some (join a b, more) := by
  have hpair : joined k join operand (s.toList ++
      ([t].flatMap (fun t => ' ' :: k.toList ++ ' ' :: t.toList) ++ more)) =
        some (([t].map fun _ => b).foldl join a, more) := by
    refine joined_append stop hk hs hfirst ?_ ?_ hnext hend hmore
    · intro q hq
      rw [List.mem_singleton.mp hq]
      exact hsecond
    · intro q hq
      rw [List.mem_singleton.mp hq]
      exact ht
  simpa using hpair

/-- Two primaries with `AND` between them are a conjunction. -/
theorem and (ha : Primary s a) (hb : Primary t b) :
    Conjunction (s ++ " AND " ++ t) (.and a b) := by
  refine ⟨?_, fun depth more hd hm => ?_⟩
  · rw [String.toList_append, String.toList_append, List.append_assoc]
    exact ha.tight.append _
  · have hlength : s.toList.length ≤ depth ∧ t.toList.length ≤ depth := by
      simp only [String.toList_append, List.length_append] at hd
      omega
    exact joined_pair (k := "AND") (fun _ => True) rfl rfl hb.tight
      (fun more _ => ha.reads depth more hlength.1) (fun more _ => hb.reads depth more hlength.2)
      (fun _ => trivial) trivial hm

/-- Two conjunctions with `OR` between them are a condition. -/
theorem readCondition_or (ha : Conjunction s a) (hb : Conjunction t b) :
    readCondition (s ++ " OR " ++ t) = some (.or a b) := by
  have hlength : s.toList.length ≤ (s ++ " OR " ++ t).toList.length ∧
      t.toList.length ≤ (s ++ " OR " ++ t).toList.length := by
    simp only [String.toList_append, List.length_append]
    omega
  have hor : condition ((s ++ " OR " ++ t).toList.length + 1) ((s ++ " OR " ++ t).toList ++ []) =
      some (.or a b, []) :=
    joined_pair (k := "OR") (fun more => keyword "AND" more = none) rfl rfl hb.tight
      (fun more hm => ha.reads _ more hlength.1 hm) (fun more hm => hb.reads _ more hlength.2 hm)
      (fun more => keyword_append rfl more) (keyword_nil _) (keyword_nil _)
  rw [List.append_nil] at hor
  exact readCondition_of_condition hor

/-- **`AND` binds tighter than `OR`**, on either side of it, when no parentheses say
otherwise. -/
theorem readCondition_precedence (ha : Primary s a) (hb : Primary t b) (hc : Primary u c) :
    readCondition (s ++ " AND " ++ t ++ " OR " ++ u) = some (.or (.and a b) c) ∧
      readCondition (s ++ " OR " ++ (t ++ " AND " ++ u)) = some (.or a (.and b c)) :=
  ⟨readCondition_or (ha.and hb) hc.conjunction, readCondition_or ha.conjunction (hb.and hc)⟩

end Precedence

end Primary

end Sql

/-! ## Predicates -/

namespace Predicate

open Sql (IsName)

/-- **Every predicate is written as a primary**. -/
theorem primary_condition (p : Predicate) (h : ∀ name ∈ p.names, IsName name) :
    Sql.Primary p.condition p.boolExpr := by
  induction p using induction with
  | node leaf ands ors iha iho =>
    obtain ⟨hl, ha, ho⟩ := forall_names_mk.mp h
    rw [condition, conditions_eq_map, conditions_eq_map, boolExpr_mk]
    exact ((Sql.Primary.test hl).grouped_and fun q hq => iha q hq (ha q hq)).grouped_or
      fun q hq => iho q hq (ho q hq)

/-- The text of a predicate is read as the expression that the predicate describes. -/
theorem readCondition_eq_boolExpr (p : Predicate) (h : ∀ name ∈ p.names, IsName name) :
    Sql.readCondition p.condition = some p.boolExpr := by
  have hp := (p.primary_condition h).conjunction.reads _ [] (Nat.le_refl _) (Sql.keyword_nil _)
  rw [List.append_nil] at hp
  exact Sql.readCondition_of_condition (Sql.joined_single hp (Sql.keyword_nil _))

/-- **A condition is read back.**  The text of a predicate whose names are names of SQL is
read as a boolean expression that has the comparisons of the predicate, in the same order, and
that holds, fails or is unknown as the predicate does, whatever the truth of the
comparisons. -/
theorem readCondition_condition (p : Predicate) (h : ∀ name ∈ p.names, IsName name) :
    ∃ e, Sql.readCondition p.condition = some e ∧ e.leaves = p.leaves ∧
      ∀ leafTruth, e.truth leafTruth = p.truth leafTruth :=
  ⟨p.boolExpr, p.readCondition_eq_boolExpr h, p.leaves_boolExpr, p.truth_boolExpr⟩

/-- Both groups at once, one inside the other, with a column that is called like a function. -/
theorem readCondition_condition_nested :
    let name : Predicate := ⟨⟨"lower", some "users", .eq, true, true⟩, [], []⟩
    let state : Predicate := ⟨⟨"state", none, .ne, false, false⟩, [name], []⟩
    let age : Predicate := ⟨⟨"age", none, .ge, false, false⟩, [name, name], [state, name]⟩
    (∀ x ∈ age.names, Sql.IsName x) ∧
      ∃ e, Sql.readCondition age.condition = some e ∧ e.leaves = age.leaves ∧
        ∀ leafTruth, e.truth leafTruth = age.truth leafTruth := by
  intro name state age
  have h : ∀ x ∈ age.names, Sql.IsName x := by decide
  exact ⟨h, readCondition_condition age h⟩

end Predicate

end ParamSql
