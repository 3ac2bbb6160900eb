import ParamSql.Proofs.Legible.Text
import ParamSql.Proofs.Tree

/-!
# Conditions can be told apart

A condition tells its tree, and where it ends, whatever stands behind it: a comparison ends in
its placeholder, and a group in its parenthesis.  What a group is joined by stands behind its
first comparison, and a group that is itself the first part of one begins with two parentheses.
All of this holds as soon as the names of the tree are words, be they keywords or the names of
the foldings.

## Main results

* `Sql.legible_qualified`, `Leaf.legible_sql`: columns and comparisons
* `Predicate.legible_condition`: predicates of any depth
* `Predicate.eq_of_whereClause_eq`: whole clauses
-/

namespace ParamSql

namespace Sql

/-! ## Columns -/

/-- A character that goes on neither with a word nor, as a point or an opening parenthesis, with
a column. -/
def endsPath (c : Char) : Bool := !isWordRest c && c != '.' && c != '('

/-- The text goes on neither with a word nor with a column. -/
def EndsPath (cs : List Char) : Prop := ∀ c ∈ cs.head?, endsPath c = true

theorem endsPath_cons {c : Char} (h : endsPath c = true) (cs : List Char) : EndsPath (c :: cs) := by
  rintro d ⟨⟩
  exact h

theorem EndsPath.endsWord {cs : List Char} (h : EndsPath cs) : EndsWord cs := by
  intro c hc
  have hends := h c hc
  simp only [endsPath, Bool.and_eq_true, Bool.not_eq_true'] at hends
  exact hends.1.1

theorem EndsPath.ne_cons {cs : List Char} (h : EndsPath cs) {c : Char} (hc : endsPath c = false)
    (more : List Char) : cs ≠ c :: more := by
  rintro rfl
  rw [h c rfl] at hc
  cases hc

/-- A column and its table are words. -/
def WordPath (path : Option String × String) : Prop :=
  (∀ table ∈ path.1, isWord table.toList = true) ∧ isWord path.2.toList = true

theorem toList_qualified (table : Option String) (column : String) :
    (qualified table column).toList =
      match table with
      | some t => t.toList ++ '.' :: column.toList
      | none => column.toList := by
  cases table with
  | none => rfl
  | some t => simp [qualified]

theorem WordPath.startsWord {path : Option String × String} (h : WordPath path)
    (rest : List Char) : StartsWord ((qualified path.1 path.2).toList ++ rest) := by
  obtain ⟨htable, hcolumn⟩ := h
  rw [toList_qualified]
  split
  · next t ht =>
    rw [List.append_assoc]
    exact startsWord_append (htable t ht) _
  · exact startsWord_append hcolumn _

/-- A column, behind its table or not, in front of what does not go on with it. -/
theorem legible_qualified {path : Option String × String} (h : WordPath path) :
    Legible (fun path : Option String × String => (qualified path.1 path.2).toList) WordPath
      EndsPath path := by
  obtain ⟨table, column⟩ := path
  obtain ⟨htable, hcolumn⟩ := h
  rintro ⟨table', column'⟩ ⟨htable', hcolumn'⟩ r s hr hs heq
  have hpoint : ∀ cs, EndsWord ('.' :: cs) := endsWord_cons rfl
  simp only [toList_qualified] at heq
  cases table with
  | none =>
    cases table' with
    | none =>
      obtain ⟨rfl, rfl⟩ := legible_word hcolumn hcolumn' hr.endsWord hs.endsWord heq
      exact ⟨rfl, rfl⟩
    | some t' =>
      rw [List.append_assoc] at heq
      obtain ⟨-, hpath⟩ := legible_word hcolumn (htable' t' rfl) hr.endsWord (hpoint _) heq
      exact absurd hpath (hr.ne_cons rfl _)
  | some t =>
    cases table' with
    | none =>
      rw [List.append_assoc] at heq
      obtain ⟨-, hpath⟩ := legible_word (htable t rfl) hcolumn' (hpoint _) hs.endsWord heq
      exact absurd hpath.symm (hs.ne_cons rfl _)
    | some t' =>
      rw [List.append_assoc, List.append_assoc] at heq
      obtain ⟨rfl, hpath⟩ := legible_word (htable t rfl) (htable' t' rfl) (hpoint _) (hpoint _) heq
      obtain ⟨rfl, rfl⟩ := legible_word hcolumn hcolumn' hr.endsWord hs.endsWord
        (List.tail_eq_of_cons_eq hpath)
      exact ⟨rfl, rfl⟩

/-- Behind a column there is no opening parenthesis. -/
theorem qualified_ne_call {path : Option String × String} (h : WordPath path) {w : String}
    (hw : isWord w.toList = true) {r : List Char} (hr : EndsPath r) (more : List Char) :
    (qualified path.1 path.2).toList ++ r ≠ w.toList ++ '(' :: more := by
  obtain ⟨table, column⟩ := path
  obtain ⟨htable, hcolumn⟩ := h
  have hopen : EndsWord ('(' :: more) := endsWord_cons rfl _
  rw [toList_qualified]
  intro heq
  cases table with
  | none =>
    obtain ⟨-, hpath⟩ := legible_word hcolumn hw hr.endsWord hopen heq
    exact hr.ne_cons rfl _ hpath
  | some t =>
    rw [List.append_assoc] at heq
    obtain ⟨-, hpath⟩ := legible_word (htable t rfl) hw (endsWord_cons rfl _) hopen heq
    cases hpath

/-! ## Foldings -/

/-- A text inside the call of a function, or as it is. -/
def folded (w : String) (flag : Bool) (inner : List Char) : List Char :=
  if flag then w.toList ++ '(' :: (inner ++ [')']) else inner

theorem folded_append (w : String) (flag : Bool) (inner r : List Char) :
    folded w flag inner ++ r =
      if flag then w.toList ++ '(' :: (inner ++ ')' :: r) else inner ++ r := by
  cases flag <;> simp [folded]

/-- Whether a text is folded is told by the parenthesis behind the name of the function. -/
theorem Legible.folded {α : Type} {text : α → List Char} {valid : α → Prop} {w : String} {a : α}
    (h : Legible text valid EndsPath a) (ha : valid a)
    (hcall : ∀ b, valid b → ∀ r, EndsPath r → ∀ more, text b ++ r ≠ w.toList ++ '(' :: more)
    (flag : Bool) :
    Legible (fun p : Bool × α => folded w p.1 (text p.2)) (fun p => valid p.2) EndsPath
      (flag, a) := by
  rintro ⟨flag', b⟩ hb r s hr hs heq
  simp only [folded_append] at heq
  cases flag with
  | true =>
    cases flag' with
    | true =>
      simp only [if_true] at heq
      have hclose : ∀ cs, EndsPath (')' :: cs) := endsPath_cons rfl
      obtain ⟨rfl, hrest⟩ := h hb (hclose r) (hclose s)
        (List.tail_eq_of_cons_eq (List.append_cancel_left heq))
      exact ⟨rfl, List.tail_eq_of_cons_eq hrest⟩
    | false => exact absurd heq.symm (hcall b hb s hs _)
  | false =>
    cases flag' with
    | true => exact absurd heq (hcall a ha r hr _)
    | false =>
      obtain ⟨rfl, rfl⟩ := h hb hr hs heq
      exact ⟨rfl, rfl⟩

end Sql

open Sql

/-! ## Comparisons -/

/-- No operator with its placeholder begins another one. -/
theorem Comparison.legible_symbol (c : Comparison) :
    Legible (fun c : Comparison => c.symbol.toList ++ ['?']) (fun _ => True) (fun _ => True) c :=
  legible_code (by intro a b; cases a <;> cases b <;> decide) c

namespace Leaf

/-- The names of a comparison are words. -/
def Worded (l : Leaf) : Prop := ∀ name ∈ l.names, isWord name.toList = true

theorem Worded.path {l : Leaf} (h : l.Worded) : WordPath (l.table, l.column) := by
  refine ⟨fun table ht => h table ?_, h l.column ?_⟩
  · have htable : l.table = some table := ht
    simp [names, htable]
  · simp [names]

theorem toList_operand (l : Leaf) :
    l.operand.toList =
      folded "upper" l.upper (folded "lower" l.lower (qualified l.table l.column).toList) := by
  unfold operand
  cases l.lower <;> cases l.upper <;> simp [folded]

/-- **Comparisons are legible**, whatever stands behind their placeholder. -/
theorem legible_sql {l : Leaf} (h : l.Worded) :
    Legible (fun l : Leaf => l.sql.toList) Worded (fun _ => True) l := by
  intro l' h' r s _ _ heq
  have hends : ∀ (c : Comparison) cs, EndsPath (c.symbol.toList ++ cs) := by
    intro c cs
    cases c <;> exact endsPath_cons rfl _
  have hlower : ∀ path : Option String × String, WordPath path → ∀ r, EndsPath r → ∀ more,
      (qualified path.1 path.2).toList ++ r ≠ "lower".toList ++ '(' :: more :=
    fun path hpath r hr more => qualified_ne_call hpath (by decide) hr more
  have hupper : ∀ p : Bool × Option String × String, WordPath p.2 → ∀ r, EndsPath r → ∀ more,
      folded "lower" p.1 (qualified p.2.1 p.2.2).toList ++ r ≠ "upper".toList ++ '(' :: more := by
    rintro ⟨flag, path⟩ hpath r hr more heq
    rw [folded_append] at heq
    cases flag with
    | true => simp at heq
    | false => exact qualified_ne_call hpath (by decide) hr more heq
  have hoperand := ((legible_qualified h.path).folded h.path hlower l.lower).folded h.path hupper
    l.upper
  simp only [sql, String.toList_append, toList_operand, List.append_assoc] at heq
  obtain ⟨hpath, hsymbol⟩ := hoperand (b := (l'.upper, l'.lower, l'.table, l'.column)) h'.path
    (hends _ _) (hends _ _) heq
  have hcomparison := l.op.legible_symbol (b := l'.op) trivial (r := r) (s := s) trivial trivial
    (by simpa using hsymbol)
  simp only [Prod.mk.injEq] at hpath
  obtain ⟨column, table, op, lower, upper⟩ := l
  obtain ⟨column', table', op', lower', upper'⟩ := l'
  obtain ⟨rfl, rfl, rfl, rfl⟩ := hpath
  obtain ⟨rfl, rfl⟩ := hcomparison
  exact ⟨rfl, rfl⟩

/-- A comparison begins with a word. -/
theorem Worded.startsWord {l : Leaf} (h : l.Worded) (rest : List Char) :
    StartsWord (l.sql.toList ++ rest) := by
  simp only [sql, String.toList_append, toList_operand, List.append_assoc]
  rw [folded_append]
  split
  · exact startsWord_append (w := "upper".toList) (by decide) _
  · rw [folded_append]
    split
    · exact startsWord_append (w := "lower".toList) (by decide) _
    · exact h.path.startsWord _

end Leaf

/-! ## Groups -/

namespace Sql

variable {α : Type} {text : α → List Char} {sep first first' : List Char}

/-- A first text alone, or with further ones behind a separator, in parentheses. -/
def bracketed (sep first : List Char) (text : α → List Char) : List α → List Char
  | [] => first
  | a :: as => '(' :: (first ++ ((a :: as).flatMap (sep ++ text ·) ++ [')']))

theorem toList_grouped (w first : String) (as : List α) (text : α → String) :
    (grouped w first (as.map text)).toList =
      bracketed w.toList first.toList (fun a => (text a).toList) as := by
  cases as with
  | nil => rfl
  | cons a as =>
    rw [grouped, if_neg (by simp), String.toList_append, String.toList_append,
      toList_intercalate_cons, bracketed]
    simp

/-- The further items of a group are told, up to its parenthesis. -/
theorem eq_of_items {valid : α → Prop} {as bs : List α} {r s : List Char}
    (h : ∀ a ∈ as, Legible text valid (fun _ => True) a) (hbs : ∀ b ∈ bs, valid b)
    (hsep : ' ' ∈ sep.head?)
    (heq : as.flatMap (sep ++ text ·) ++ ')' :: r = bs.flatMap (sep ++ text ·) ++ ')' :: s) :
    as = bs ∧ r = s := by
  have hclose : ∀ r more, ')' :: r ≠ sep ++ more := by
    intro r more hr
    cases sep with
    | nil => cases hsep
    | cons c sep =>
      cases hsep
      cases hr
  obtain ⟨rfl, hrest⟩ := Legible.flatMap h (fun _ => trivial) hbs ⟨trivial, hclose r⟩
    ⟨trivial, hclose s⟩ heq
  exact ⟨rfl, List.tail_eq_of_cons_eq hrest⟩

end Sql

namespace Predicate

/-- The names of a tree are words. -/
def Worded (p : Predicate) : Prop := ∀ name ∈ p.names, isWord name.toList = true

theorem worded_mk {leaf : Leaf} {ands ors : List Predicate} :
    Worded ⟨leaf, ands, ors⟩ ↔
      leaf.Worded ∧ (∀ p ∈ ands, p.Worded) ∧ ∀ p ∈ ors, p.Worded := forall_names_mk

/-- The comparison of a node and what must hold together with it. -/
def conjunction (leaf : Leaf) (ands : List Predicate) : List Char :=
  bracketed " AND ".toList leaf.sql.toList (fun p => p.condition.toList) ands

theorem toList_condition (leaf : Leaf) (ands ors : List Predicate) :
    (condition ⟨leaf, ands, ors⟩).toList =
      bracketed " OR ".toList (conjunction leaf ands) (fun p => p.condition.toList) ors := by
  rw [condition, conditions_eq_map, conditions_eq_map, toList_grouped, toList_grouped]
  rfl

variable {leaf leaf' : Leaf} {ands ands' : List Predicate} {r s : List Char}

/-- A conjunction of several parts begins with a parenthesis, and a comparison does not. -/
theorem conjunction_eq (hleaf : leaf.Worded) (hleaf' : leaf'.Worded)
    (hands : ∀ p ∈ ands, Legible (fun p => p.condition.toList) Worded (fun _ => True) p)
    (hands' : ∀ p ∈ ands', p.Worded)
    (h : conjunction leaf ands ++ r = conjunction leaf' ands' ++ s) :
    leaf = leaf' ∧ ands = ands' ∧ r = s := by
  cases ands with
  | nil =>
    cases ands' with
    | nil =>
      obtain ⟨rfl, rfl⟩ := leaf.legible_sql hleaf hleaf' trivial trivial h
      exact ⟨rfl, rfl, rfl⟩
    | cons p' ps' => exact absurd h ((hleaf.startsWord r).ne_cons rfl _)
  | cons p ps =>
    cases ands' with
    | nil => exact absurd h.symm ((hleaf'.startsWord s).ne_cons rfl _)
    | cons p' ps' =>
      simp only [conjunction, bracketed, List.cons_append, List.append_assoc, List.nil_append] at h
      obtain ⟨rfl, hrest⟩ := leaf.legible_sql hleaf hleaf' trivial trivial
        (List.tail_eq_of_cons_eq h)
      obtain ⟨hitems, rfl⟩ := eq_of_items hands hands' rfl hrest
      exact ⟨rfl, hitems, rfl⟩

/-- What a group is joined by stands behind its first comparison. -/
theorem conjunction_ne_disjunction (hleaf : leaf.Worded) (hleaf' : leaf'.Worded)
    (more : List Char) :
    conjunction leaf ands ++ r ≠ '(' :: (conjunction leaf' ands' ++ (" OR ".toList ++ more)) := by
  intro h
  cases ands with
  | nil => exact (hleaf.startsWord r).ne_cons rfl _ h
  | cons p ps =>
    simp only [conjunction, bracketed, List.cons_append, List.append_assoc] at h
    have hinner := List.tail_eq_of_cons_eq h
    -- the same first comparison would be joined by both words
    cases ands' with
    | nil =>
      obtain ⟨-, hjoin⟩ := leaf.legible_sql hleaf hleaf' trivial trivial hinner
      simp at hjoin
    | cons p' ps' => exact (hleaf.startsWord _).ne_cons rfl _ hinner

/-- **Predicates of any depth are legible**, whatever stands behind them. -/
theorem legible_condition {p : Predicate} (h : p.Worded) :
    Legible (fun p => p.condition.toList) Worded (fun _ => True) p := by
  induction p using induction with
  | node leaf ands ors iha iho =>
    obtain ⟨hleaf, hands, hors⟩ := worded_mk.mp h
    have ihands := fun p hp => iha p hp (hands p hp)
    have ihors := fun p hp => iho p hp (hors p hp)
    rintro ⟨leaf', ands', ors'⟩ h' r s - - heq
    obtain ⟨hleaf', hands', hors'⟩ := worded_mk.mp h'
    simp only [toList_condition] at heq
    -- a conjunction is followed by a word only inside the parentheses of a disjunction
    cases ors with
    | nil =>
      cases ors' with
      | nil =>
        obtain ⟨rfl, rfl, rfl⟩ := conjunction_eq hleaf hleaf' ihands hands' heq
        exact ⟨rfl, rfl⟩
      | cons q' qs' =>
        simp only [bracketed, List.cons_append, List.append_assoc, List.flatMap_cons] at heq
        exact absurd heq (conjunction_ne_disjunction hleaf hleaf' _)
    | cons q qs =>
      cases ors' with
      | nil =>
        simp only [bracketed, List.cons_append, List.append_assoc, List.flatMap_cons] at heq
        exact absurd heq.symm (conjunction_ne_disjunction hleaf' hleaf _)
      | cons q' qs' =>
        simp only [bracketed, List.cons_append, List.append_assoc, List.nil_append] at heq
        obtain ⟨rfl, rfl, hrest⟩ := conjunction_eq hleaf hleaf' ihands hands'
          (List.tail_eq_of_cons_eq heq)
        obtain ⟨hitems, rfl⟩ := eq_of_items ihors hors' rfl hrest
        rw [hitems]
        exact ⟨rfl, rfl⟩

/-- **Clauses tell their trees**: two predicates of any depth with one clause have the same
comparisons and the same further nodes throughout, as long as their names are words. -/
theorem eq_of_whereClause_eq {p q : Predicate} (hp : p.Worded) (hq : q.Worded)
    (h : p.whereClause = q.whereClause) : p = q := by
  have hlist := congrArg String.toList h
  rw [whereClause, whereClause, String.toList_append, String.toList_append] at hlist
  have hcondition := congrArg (· ++ []) (List.append_cancel_left hlist)
  exact (legible_condition hp hq trivial trivial hcondition).1

/-- Keywords and the names of the foldings tell a tree as other words do.  With the last node
inside the group that it stood beside, the clause is another one. -/
theorem eq_and_ne_of_whereClause :
    let lower : Predicate := ⟨⟨"lower", some "select", .eq, true, false⟩, [], []⟩
    let upper : Predicate := ⟨⟨"upper", none, .ge, false, true⟩, [], []⟩
    let p : Predicate := ⟨⟨"or", none, .ne, false, false⟩, [lower], [upper]⟩
    let q : Predicate := (((Predicate.ofColumn "or").withOp .ne).or upper).and lower
    let r : Predicate := ⟨⟨"or", none, .ne, false, false⟩, [⟨lower.leaf, [], [upper]⟩], []⟩
    p.whereClause = "WHERE ((or!=? AND lower(select.lower)=?) OR upper(upper)>=?)" ∧
      p = q ∧ p.whereClause ≠ r.whereClause := by
  intro lower upper p q r
  have hp : p.Worded := by unfold Worded; decide
  have hq : q.Worded := by unfold Worded; decide
  have hr : r.Worded := by unfold Worded; decide
  have hclause : p.whereClause = q.whereClause := by decide +kernel
  refine ⟨by decide +kernel, eq_of_whereClause_eq hp hq hclause, fun h => ?_⟩
  exact absurd (eq_of_whereClause_eq hp hr h) (by decide)

end Predicate

end ParamSql
