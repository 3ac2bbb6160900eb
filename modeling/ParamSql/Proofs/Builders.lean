import ParamSql.Proofs.Tree
import ParamSql.Sql.Statement

/-!
# What the order of builder calls says

Builder calls come in kinds, and what is built is known from the calls of each kind alone.  Of a
table, an operator, a filter and a limit the last one counts, a folding counts if it was asked for
at all, and further nodes, joins and order terms are put behind those that are there.  So calls of
different kinds may change places, and calls of one kind may not.  What may not be overlooked is
the order in which values are bound: a node that is added to `ands` binds in front of all nodes of
`ors`, also of those that were added before it.

## Main definitions

* `SameOfEachKind`: two sequences have the same calls of each kind, in the same order
* `Predicate.Step`, `Predicate.build`, `SelectOptions.Step`, `SelectOptions.build`

## Main results

* `Predicate.build_eq`, `SelectOptions.build_eq`: what is built, kind by kind
* `Predicate.build_congr`, `SelectOptions.build_congr`: interleavings build the same
* `Predicate.placeholderColumns_or`, `Predicate.placeholderColumns_and`: where a node's values are
  bound
* `builder_calls_independent`: all of this together
-/

namespace ParamSql

/-! ## Kinds -/

section Kinds

variable {σ κ α : Type} [DecidableEq κ] {kind : σ → κ} {as bs : List σ}

/-- Two sequences have the same things of each kind in the same order. -/
def SameOfEachKind (kind : σ → κ) (as bs : List σ) : Prop :=
  ∀ k, as.filter (kind · == k) = bs.filter (kind · == k)

namespace SameOfEachKind

/-- What is made of the things of one kind is the same. -/
theorem eq_of_filter {β : Type} (h : SameOfEachKind kind as bs) (k : κ) (make : List σ → β)
    (hmake : ∀ cs, make (cs.filter (kind · == k)) = make cs) : make as = make bs := by
  rw [← hmake as, h k, hmake]

theorem filterMap_eq (h : SameOfEachKind kind as bs) (k : κ) {f : σ → Option α}
    (hf : ∀ s, kind s ≠ k → f s = none) : as.filterMap f = bs.filterMap f := by
  refine h.eq_of_filter k (·.filterMap f) fun cs => ?_
  induction cs with
  | nil => rfl
  | cons s cs ih => by_cases hs : kind s = k <;> simp [List.filterMap_cons, hs, ih, hf]

theorem flatMap_eq (h : SameOfEachKind kind as bs) (k : κ) {f : σ → List α}
    (hf : ∀ s, kind s ≠ k → f s = []) : as.flatMap f = bs.flatMap f := by
  refine h.eq_of_filter k (·.flatMap f) fun cs => ?_
  induction cs with
  | nil => rfl
  | cons s cs ih => by_cases hs : kind s = k <;> simp [hs, ih, hf]

theorem any_eq (h : SameOfEachKind kind as bs) (k : κ) {f : σ → Bool}
    (hf : ∀ s, kind s ≠ k → f s = false) : as.any f = bs.any f := by
  refine h.eq_of_filter k (·.any f) fun cs => ?_
  induction cs with
  | nil => rfl
  | cons s cs ih => by_cases hs : kind s = k <;> simp [hs, ih, hf]

end SameOfEachKind

end Kinds

/-! ## Predicates -/

namespace Predicate

/-- A call of a builder of predicates. -/
inductive Step where
  | inTable (table : String)
  | withOp (op : Comparison)
  | lowercase
  | uppercase
  | and (q : Predicate)
  | andAll (qs : List Predicate)
  | or (q : Predicate)
  | orAll (qs : List Predicate)

namespace Step

/-- What a call is about; one node and several nodes are added by calls of one kind. -/
inductive Kind where
  | table
  | op
  | lower
  | upper
  | ands
  | ors
deriving DecidableEq

def kind : Step → Kind
  | inTable _ => .table
  | withOp _ => .op
  | lowercase => .lower
  | uppercase => .upper
  | and _ => .ands
  | andAll _ => .ands
  | or _ => .ors
  | orAll _ => .ors

def apply (p : Predicate) : Step → Predicate
  | inTable table => p.inTable table
  | withOp op => p.withOp op
  | lowercase => p.lowercase
  | uppercase => p.uppercase
  | and q => p.and q
  | andAll qs => p.andAll qs
  | or q => p.or q
  | orAll qs => p.orAll qs

def table? : Step → Option String
  | inTable table => some table
  | _ => none

def op? : Step → Option Comparison
  | withOp op => some op
  | _ => none

def lowers : Step → Bool
  | lowercase => true
  | _ => false

def uppers : Step → Bool
  | uppercase => true
  | _ => false

/-- The nodes that a call adds to `ands`. -/
def ands : Step → List Predicate
  | and q => [q]
  | andAll qs => qs
  | _ => []

/-- The nodes that a call adds to `ors`. -/
def ors : Step → List Predicate
  | or q => [q]
  | orAll qs => qs
  | _ => []

end Step

/-- The predicate after some calls. -/
def build (p : Predicate) (steps : List Step) : Predicate := steps.foldl Step.apply p

/-- **What is built** from a predicate, kind by kind. -/
theorem build_eq (p : Predicate) (steps : List Step) :
    p.build steps =
      { leaf :=
          { column := p.leaf.column
            table := (steps.filterMap Step.table?).getLast?.or p.leaf.table
            op := (steps.filterMap Step.op?).getLast?.getD p.leaf.op
            lower := p.leaf.lower || steps.any Step.lowers
            upper := p.leaf.upper || steps.any Step.uppers }
        ands := p.ands ++ steps.flatMap Step.ands
        ors := p.ors ++ steps.flatMap Step.ors } := by
  induction steps generalizing p with
  | nil =>
    obtain ⟨leaf, ands, ors⟩ := p
    simp [build]
  | cons step steps ih =>
    have hbuild : p.build (step :: steps) = (step.apply p).build steps := rfl
    rw [hbuild, ih]
    cases step <;> simp [Step.apply, Step.table?, Step.op?, Step.lowers, Step.uppers, Step.ands,
      Step.ors, inTable, withOp, lowercase, uppercase, Predicate.and, Predicate.or, andAll, orAll,
      List.getLast?_cons]

/-- **Interleavings build the same predicate**. -/
theorem build_congr {steps steps' : List Step} (h : SameOfEachKind Step.kind steps steps')
    (p : Predicate) : p.build steps = p.build steps' := by
  have htable := h.filterMap_eq .table (f := Step.table?) fun s hs => by cases s <;> trivial
  have hop := h.filterMap_eq .op (f := Step.op?) fun s hs => by cases s <;> trivial
  have hlower := h.any_eq .lower (f := Step.lowers) fun s hs => by cases s <;> trivial
  have hupper := h.any_eq .upper (f := Step.uppers) fun s hs => by cases s <;> trivial
  have hands := h.flatMap_eq .ands (f := Step.ands) fun s hs => by cases s <;> trivial
  have hors := h.flatMap_eq .ors (f := Step.ors) fun s hs => by cases s <;> trivial
  rw [build_eq, build_eq, htable, hop, hlower, hupper, hands, hors]

/-! ## Binding order -/

theorem placeholderColumns_mk (leaf : Leaf) (ands ors : List Predicate) :
    placeholderColumns ⟨leaf, ands, ors⟩ = leaf.column ::
      (ands.flatMap placeholderColumns ++ ors.flatMap placeholderColumns) := by
  simp only [placeholderColumns, leaves_mk, List.map_cons, List.map_append, List.map_flatMap]
  rfl

/-- A node added to `ors` binds its values last. -/
theorem placeholderColumns_or (p q : Predicate) :
    (p.or q).placeholderColumns = p.placeholderColumns ++ q.placeholderColumns := by
  obtain ⟨leaf, ands, ors⟩ := p
  simp [Predicate.or, orAll, placeholderColumns_mk]

/-- **A node added to `ands` binds its values in front of those of `ors`**. -/
theorem placeholderColumns_and (p q : Predicate) :
    ∃ front, p.placeholderColumns = front ++ p.ors.flatMap placeholderColumns ∧
      (p.and q).placeholderColumns =
        front ++ (q.placeholderColumns ++ p.ors.flatMap placeholderColumns) := by
  obtain ⟨leaf, ands, ors⟩ := p
  exact ⟨leaf.column :: ands.flatMap placeholderColumns,
    by simp [Predicate.and, andAll, placeholderColumns_mk]⟩

end Predicate

/-! ## Options of a query -/

namespace SelectOptions

/-- A call of a builder of options. -/
inductive Step where
  | addJoin (join : InnerJoin)
  | addOrder (term : OrderTerm)
  | withFilter (p : Predicate)
  | withLimit (n : UInt64)
  | withOffset (n : UInt64)
  | makeDistinct

namespace Step

/-- What a call is about. -/
inductive Kind where
  | joins
  | order
  | filter
  | limit
  | offset
  | distinct
deriving DecidableEq

def kind : Step → Kind
  | addJoin _ => .joins
  | addOrder _ => .order
  | withFilter _ => .filter
  | withLimit _ => .limit
  | withOffset _ => .offset
  | makeDistinct => .distinct

def apply (o : SelectOptions) : Step → SelectOptions
  | addJoin join => o.addJoin join
  | addOrder term => o.addOrder term
  | withFilter p => o.withFilter p
  | withLimit n => o.withLimit n
  | withOffset n => o.withOffset n
  | makeDistinct => o.makeDistinct

def join? : Step → Option InnerJoin
  | addJoin join => some join
  | _ => none

def term? : Step → Option OrderTerm
  | addOrder term => some term
  | _ => none

def filter? : Step → Option Predicate
  | withFilter p => some p
  | _ => none

def limit? : Step → Option UInt64
  | withLimit n => some n
  | _ => none

def offset? : Step → Option UInt64
  | withOffset n => some n
  | _ => none

def isDistinct : Step → Bool
  | makeDistinct => true
  | _ => false

end Step

/-- The options after some calls. -/
def build (o : SelectOptions) (steps : List Step) : SelectOptions := steps.foldl Step.apply o

/-- **What is built** from some options, kind by kind. -/
theorem build_eq (o : SelectOptions) (steps : List Step) :
    o.build steps =
      { innerJoins := o.innerJoins ++ steps.filterMap Step.join?
        filter := (steps.filterMap Step.filter?).getLast?.or o.filter
        orderBy := o.orderBy ++ steps.filterMap Step.term?
        distinct := o.distinct || steps.any Step.isDistinct
        limit := (steps.filterMap Step.limit?).getLast?.or o.limit
        offset := (steps.filterMap Step.offset?).getLast?.or o.offset } := by
  induction steps generalizing o with
  | nil => simp [build]
  | cons step steps ih =>
    have hbuild : o.build (step :: steps) = (step.apply o).build steps := rfl
    rw [hbuild, ih]
    cases step <;> simp [Step.apply, Step.join?, Step.term?, Step.filter?, Step.limit?,
      Step.offset?, Step.isDistinct, addJoin, addOrder, withFilter, withLimit, withOffset,
      makeDistinct, List.getLast?_cons, List.filterMap_cons]

/-- **Interleavings build the same options**. -/
theorem build_congr {steps steps' : List Step} (h : SameOfEachKind Step.kind steps steps')
    (o : SelectOptions) : o.build steps = o.build steps' := by
  have hjoins := h.filterMap_eq .joins (f := Step.join?) fun s hs => by cases s <;> trivial
  have horder := h.filterMap_eq .order (f := Step.term?) fun s hs => by cases s <;> trivial
  have hfilter := h.filterMap_eq .filter (f := Step.filter?) fun s hs => by cases s <;> trivial
  have hlimit := h.filterMap_eq .limit (f := Step.limit?) fun s hs => by cases s <;> trivial
  have hoffset := h.filterMap_eq .offset (f := Step.offset?) fun s hs => by cases s <;> trivial
  have hdistinct := h.any_eq .distinct (f := Step.isDistinct) fun s hs => by cases s <;> trivial
  rw [build_eq, build_eq, hjoins, horder, hfilter, hlimit, hoffset, hdistinct]

end SelectOptions

/-- **Builder calls of different kinds are independent.**  What calls build of a predicate or of
options is known from the last table and the last operator, from whether each folding was asked
for, and from the nodes that are added to `ands` and to `ors`; or from the joins and the order
terms, from the last filter, limit and offset, and from whether `DISTINCT` was asked for.  So two
interleavings of the same calls of each kind are written alike.  A node that is added to `ors`
binds its values behind all others, one that is added to `ands` in front of those of `ors`. -/
theorem builder_calls_independent :
    (∀ (p : Predicate) (steps : List Predicate.Step),
      p.build steps =
        { leaf :=
            { column := p.leaf.column
              table := (steps.filterMap (·.table?)).getLast?.or p.leaf.table
              op := (steps.filterMap (·.op?)).getLast?.getD p.leaf.op
              lower := p.leaf.lower || steps.any (·.lowers)
              upper := p.leaf.upper || steps.any (·.uppers) }
          ands := p.ands ++ steps.flatMap (·.ands)
          ors := p.ors ++ steps.flatMap (·.ors) }) ∧
    (∀ (o : SelectOptions) (steps : List SelectOptions.Step),
      o.build steps =
        { innerJoins := o.innerJoins ++ steps.filterMap (·.join?)
          filter := (steps.filterMap (·.filter?)).getLast?.or o.filter
          orderBy := o.orderBy ++ steps.filterMap (·.term?)
          distinct := o.distinct || steps.any (·.isDistinct)
          limit := (steps.filterMap (·.limit?)).getLast?.or o.limit
          offset := (steps.filterMap (·.offset?)).getLast?.or o.offset }) ∧
    (∀ (p : Predicate) (steps steps' : List Predicate.Step),
      SameOfEachKind (·.kind) steps steps' →
        p.build steps = p.build steps' ∧
        (p.build steps).whereClause = (p.build steps').whereClause) ∧
    (∀ (o : SelectOptions) (steps steps' : List SelectOptions.Step),
      SameOfEachKind (·.kind) steps steps' →
        o.build steps = o.build steps' ∧
        ∀ (table : String) (columns : List SelectColumn),
          (Statement.select table columns (o.build steps)).sql =
            (Statement.select table columns (o.build steps')).sql) ∧
    (∀ p q : Predicate,
      (p.or q).placeholderColumns = p.placeholderColumns ++ q.placeholderColumns) ∧
    ∀ p q : Predicate, ∃ front,
      p.placeholderColumns = front ++ p.ors.flatMap (·.placeholderColumns) ∧
      (p.and q).placeholderColumns =
        front ++ (q.placeholderColumns ++ p.ors.flatMap (·.placeholderColumns)) := by
  refine ⟨Predicate.build_eq, SelectOptions.build_eq, fun p steps steps' h => ?_,
    fun o steps steps' h => ?_, Predicate.placeholderColumns_or, Predicate.placeholderColumns_and⟩
  · rw [Predicate.build_congr h]
    exact ⟨rfl, rfl⟩
  · rw [SelectOptions.build_congr h]
    exact ⟨rfl, fun _ _ => rfl⟩

/-- A node that is added to `ands` last stands in front of one that was added to `ors` before, and
so do its values; the last operator and the last limit count. -/
theorem builder_calls_independent_interleaved :
    let a := Predicate.ofColumn "a"
    let b := Predicate.ofColumn "b"
    let c := Predicate.ofColumn "c"
    let steps : List Predicate.Step := [.or c, .withOp .lt, .lowercase, .withOp .ge, .and b]
    let steps' : List Predicate.Step := [.and b, .withOp .lt, .withOp .ge, .or c, .lowercase]
    let o : SelectOptions := {}
    let calls : List SelectOptions.Step :=
      [.withLimit 9, .makeDistinct, .withOffset 2, .withLimit 5]
    let calls' : List SelectOptions.Step :=
      [.withOffset 2, .withLimit 9, .withLimit 5, .makeDistinct]
    SameOfEachKind (·.kind) steps steps' ∧
      (a.build steps).whereClause = "WHERE ((lower(a)>=? AND b=?) OR c=?)" ∧
      (a.build steps').whereClause = "WHERE ((lower(a)>=? AND b=?) OR c=?)" ∧
      SameOfEachKind (·.kind) calls calls' ∧
      (Statement.select "t" [.raw "a"] (o.build calls)).sql =
        "SELECT DISTINCT a FROM t LIMIT 5 OFFSET 2;" ∧
      (Statement.select "t" [.raw "a"] (o.build calls')).sql =
        "SELECT DISTINCT a FROM t LIMIT 5 OFFSET 2;" ∧
      (a.or c).placeholderColumns = ["a", "c"] ∧
      ((a.or c).and b).placeholderColumns = ["a", "b", "c"] := by
  intro a b c steps steps' o calls calls'
  have hsame : SameOfEachKind (·.kind) steps steps' := by
    intro k
    cases k <;> rfl
  have hcalls : SameOfEachKind (·.kind) calls calls' := by
    intro k
    cases k <;> rfl
  obtain ⟨-, -, hpredicate, hoptions, -, -⟩ := builder_calls_independent
  obtain ⟨-, htext⟩ := hpredicate a steps steps' hsame
  obtain ⟨-, hselect⟩ := hoptions o calls calls' hcalls
  have hwhere : (a.build steps).whereClause = "WHERE ((lower(a)>=? AND b=?) OR c=?)" := by
    decide +kernel
  have hsql : (Statement.select "t" [.raw "a"] (o.build calls)).sql =
      "SELECT DISTINCT a FROM t LIMIT 5 OFFSET 2;" := by
    decide +kernel
  exact ⟨hsame, hwhere, htext ▸ hwhere, hcalls, hsql, (hselect "t" [.raw "a"]).symm.trans hsql,
    rfl, rfl⟩

end ParamSql
