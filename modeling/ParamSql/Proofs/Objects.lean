import ParamSql.Proofs.Defaults

/-!
# The objects of a schema

A schema declares tables, views and indexes.  They are created in the order in which they may
depend on each other, and dropped in the opposite order.  Both lists are put together from three
others, so that they mirror each other is a fact about one list of objects that both go along.

## Main definitions

* `SchemaObject`, `Schema.namesOf`, `Schema.objects`: what is declared, in the order of creation
* `SchemaObject.drop`, `Statement.created?`: the statement that drops an object, and the object
  that a statement creates

## Main results

* `Schema.dropStatements_eq`, `Schema.map_created_createStatements`: both lists go along the objects
* `Schema.objects_ordered`, `Schema.filter_objects`: the order of the objects
* `Schema.dropping_mirrors_creating`
-/

namespace ParamSql

/-! ## Objects -/

/-- What a schema declares. -/
inductive ObjectKind where
  | table
  | view
  | index
deriving Repr, DecidableEq

namespace ObjectKind

/-- The word for the kind. -/
def word : ObjectKind → String
  | table => "TABLE"
  | view => "VIEW"
  | index => "INDEX"

/-- The place of the kind in the order of creation. -/
def rank : ObjectKind → Nat
  | table => 0
  | view => 1
  | index => 2

end ObjectKind

/-- A declared object. -/
structure SchemaObject where
  kind : ObjectKind
  name : String
deriving Repr, DecidableEq

namespace SchemaObject

/-- The statement that drops the object. -/
def drop (ifExists : Bool) : SchemaObject → Statement
  | ⟨.table, name⟩ => .dropTable name ifExists
  | ⟨.view, name⟩ => .dropView name ifExists
  | ⟨.index, name⟩ => .dropIndex name ifExists

/-- The text that drops the object. -/
theorem sql_drop (o : SchemaObject) (flag : Bool) :
    (o.drop flag).sql = Sql.drop o.kind.word o.name flag := by
  obtain ⟨kind, name⟩ := o
  cases kind <;> rfl

/-- What the text begins with that creates the object. -/
def creation (o : SchemaObject) (ifNotExists : Bool) : String :=
  "CREATE " ++ o.kind.word ++ " " ++ Sql.unlessExists ifNotExists ++ o.name ++ " "

end SchemaObject

namespace Statement

/-- The object that a statement creates, and whether only unless it is there. -/
def created? : Statement → Option (SchemaObject × Bool)
  | createTable table _ flag => some (⟨.table, table⟩, flag)
  | createView view _ _ _ flag => some (⟨.view, view⟩, flag)
  | createIndex index _ _ flag _ => some (⟨.index, index⟩, flag)
  | _ => none

/-- The text of a statement that creates an object begins with its kind and its name. -/
theorem exists_sql_of_created {s : Statement} {o : SchemaObject} {flag : Bool}
    (h : s.created? = some (o, flag)) : ∃ rest, s.sql = o.creation flag ++ rest := by
  cases s with
  | createTable table columns =>
    cases h
    refine ⟨"(" ++ Sql.tableElements columns ++ ");", String.toList_inj.mp ?_⟩
    rw [sql]
    unfold Sql.createTable
    simp [SchemaObject.creation, ObjectKind.word]
  | createView view table columns options =>
    cases h
    refine ⟨"AS " ++ Sql.select table columns options, String.toList_inj.mp ?_⟩
    rw [sql]
    unfold Sql.createView
    simp [SchemaObject.creation, ObjectKind.word]
  | createIndex index table columns flag filter =>
    cases h
    refine ⟨"ON " ++ table ++ " (" ++ String.intercalate "," columns ++ ")" ++
      (filter.map fun p => " " ++ p.whereClause).getD "" ++ ";", String.toList_inj.mp ?_⟩
    rw [sql]
    unfold Sql.createIndex
    cases filter <;> simp [SchemaObject.creation, ObjectKind.word]
  | _ => cases h

end Statement

namespace Schema

variable (s : Schema)

/-- The names that are declared for objects of a kind, in their order. -/
def namesOf : ObjectKind → List String
  | .table => s.tables.map (·.name)
  | .view => s.views.map (·.name)
  | .index => s.indexes.map (·.name)

/-- What is declared, in the order of creation. -/
def objects : List SchemaObject :=
  [ObjectKind.table, .view, .index].flatMap fun kind => (s.namesOf kind).map (⟨kind, ·⟩)

theorem dropStatements_eq (flag : Bool) :
    s.dropStatements flag = s.objects.reverse.map (·.drop flag) := by
  simp [dropStatements, objects, namesOf, SchemaObject.drop, Function.comp_def]

theorem map_created_createStatements (flag : Bool) :
    (s.createStatements flag).map (·.created?) = s.objects.map fun o => some (o, flag) := by
  simp [createStatements, objects, namesOf, Statement.created?, Function.comp_def]

theorem createSql_eq (flag : Bool) : s.createSql flag = (s.createStatements flag).map (·.sql) := by
  have hviews (v : View) : Sql.createViewWith v.name v.table v.columns v.options flag =
      Sql.createView v.name v.table v.columns (v.options.getD {}) flag := by
    cases v.options with
    | none => exact Sql.createViewWith_none _ _ _ _
    | some o => rfl
  simp [createSql, createStatements, Statement.sql, hviews, Function.comp_def]

theorem dropSql_eq (flag : Bool) : s.dropSql flag = (s.dropStatements flag).map (·.sql) := by
  simp [dropSql, dropStatements, Statement.sql, Function.comp_def]

theorem objects_ordered : s.objects.Pairwise fun o p => o.kind.rank ≤ p.kind.rank := by
  have hkind (names : List String) : names.Pairwise fun _ _ => True :=
    List.pairwise_of_forall fun _ _ => trivial
  simp [objects, List.pairwise_append, List.pairwise_map, ObjectKind.rank, hkind]

theorem filter_objects (kind : ObjectKind) :
    s.objects.filter (·.kind = kind) = (s.namesOf kind).map (⟨kind, ·⟩) := by
  cases kind <;> simp [objects, List.filter_map, Function.comp_def]

theorem length_createSql (flag : Bool) : (s.createSql flag).length = s.objects.length := by
  have hlength := congrArg List.length (s.map_created_createStatements flag)
  rw [List.length_map, List.length_map] at hlength
  rw [createSql_eq, List.length_map, hlength]

theorem length_dropSql (flag : Bool) : (s.dropSql flag).length = s.objects.length := by
  rw [dropSql_eq, dropStatements_eq, List.length_map, List.length_map, List.length_reverse]

variable {s} {o p : SchemaObject} {i j : Nat}

/-- The statement in the place of an object creates it. -/
theorem exists_create (flag : Bool) (h : s.objects[i]? = some o) :
    ∃ t, (s.createStatements flag)[i]? = some t ∧ t.created? = some (o, flag) := by
  have hcreated := congrArg (·[i]?) (s.map_created_createStatements flag)
  simp only [List.getElem?_map, h, Option.map_some] at hcreated
  exact Option.map_eq_some_iff.mp hcreated

/-- An object of a kind that is created later is dropped before. -/
theorem lt_of_rank_lt (ho : s.objects.reverse[i]? = some o) (hp : s.objects.reverse[j]? = some p)
    (hrank : p.kind.rank < o.kind.rank) : i < j := by
  obtain ⟨hi, rfl⟩ := List.getElem?_eq_some_iff.mp ho
  obtain ⟨hj, rfl⟩ := List.getElem?_eq_some_iff.mp hp
  have hordered := List.pairwise_iff_getElem.mp (List.pairwise_reverse.mpr s.objects_ordered)
  -- in the same place the ranks are the same, and before it no rank is lower
  rcases Nat.lt_trichotomy i j with hij | rfl | hji
  · exact hij
  · exact absurd hrank (Nat.lt_irrefl _)
  · exact absurd hrank (Nat.not_lt.mpr (hordered j i hj hi hji))

/-- **Dropping mirrors creating.** -/
theorem dropping_mirrors_creating (s : Schema) (ifNotExists ifExists : Bool) :
    (s.dropSql ifExists).length = (s.createSql ifNotExists).length ∧
    (∀ k < (s.createSql ifNotExists).length, ∃ (o : SchemaObject) (rest : String),
      (s.createSql ifNotExists)[(s.createSql ifNotExists).length - 1 - k]? =
        some (o.creation ifNotExists ++ rest) ∧
      (s.createStatements ifNotExists)[(s.createSql ifNotExists).length - 1 - k]?.bind
        (·.created?) = some (o, ifNotExists) ∧
      (s.dropSql ifExists)[k]? = some (Sql.drop o.kind.word o.name ifExists)) ∧
    (s.createSql ifNotExists = (s.createStatements ifNotExists).map (·.sql) ∧
      (s.createStatements ifNotExists).map (·.created?) =
        s.objects.map fun o => some (o, ifNotExists)) ∧
    (s.dropSql ifExists = (s.dropStatements ifExists).map (·.sql) ∧
      s.dropStatements ifExists = s.objects.reverse.map (·.drop ifExists)) ∧
    (∀ (i j : Nat) (o p : SchemaObject), s.objects.reverse[i]? = some o →
      s.objects.reverse[j]? = some p → p.kind.rank < o.kind.rank → i < j) ∧
    (∀ kind, s.objects.reverse.filter (·.kind = kind) =
      (s.namesOf kind).reverse.map (⟨kind, ·⟩)) := by
  refine ⟨by rw [length_dropSql, length_createSql], fun k hk => ?_,
    ⟨s.createSql_eq _, s.map_created_createStatements _⟩, ⟨s.dropSql_eq _, s.dropStatements_eq _⟩,
    fun _ _ _ _ => lt_of_rank_lt, fun kind => ?_⟩
  · rw [length_createSql] at hk ⊢
    obtain ⟨o, ho⟩ : ∃ o, s.objects[s.objects.length - 1 - k]? = some o :=
      ⟨_, List.getElem?_eq_getElem (by omega)⟩
    obtain ⟨t, ht, hcreated⟩ := exists_create ifNotExists ho
    obtain ⟨rest, hsql⟩ := Statement.exists_sql_of_created hcreated
    refine ⟨o, rest, ?_, ?_, ?_⟩
    · rw [createSql_eq, List.getElem?_map, ht, Option.map_some, hsql]
    · rw [ht, Option.bind_some, hcreated]
    · rw [dropSql_eq, dropStatements_eq, List.getElem?_map, List.getElem?_map,
        List.getElem?_reverse hk, ho, Option.map_some, Option.map_some, SchemaObject.sql_drop]
  · rw [List.filter_reverse, filter_objects, List.map_reverse]

/-- An index, declared last beside two tables of one name, is dropped first. -/
theorem dropping_mirrors_creating_twins :
    let s : Schema :=
      ⟨[⟨"counter", []⟩, ⟨"counter", []⟩], [], [⟨"ranking", "counter", ["n"], none⟩]⟩
    0 < (s.createSql true).length ∧ ∃ o : SchemaObject,
      (s.createStatements true)[(s.createSql true).length - 1 - 0]?.bind (·.created?) =
        some (o, true) ∧
      (s.dropSql false)[0]? = some (Sql.drop o.kind.word o.name false) ∧
      s.dropSql false = ["DROP INDEX ranking;", "DROP TABLE counter;", "DROP TABLE counter;"] := by
  intro s
  have hk : 0 < (s.createSql true).length := by decide
  obtain ⟨o, -, -, hcreated, hdrop⟩ := (dropping_mirrors_creating s true false).2.1 0 hk
  exact ⟨hk, o, hcreated, hdrop, by decide⟩

end Schema

end ParamSql
