import ParamSql.Predicate

/-!
# Selections

What a query does besides naming its table and columns: join, filter, order,
remove duplicates, and cut.

## Main definitions

* `InnerJoin`, `OrderTerm`, `SelectOptions` and their builders
-/

namespace ParamSql

/-- Joins the rows of another table whose column equals a column at hand. -/
structure InnerJoin where
  thisColumn : String
  otherTable : String
  otherColumn : String
deriving Repr, DecidableEq, Inhabited

/-- One key of an ordering. -/
structure OrderTerm where
  column : String
  table : Option String := none
  ascending : Bool := true
deriving Repr, DecidableEq, Inhabited

namespace OrderTerm

def asc (column : String) : OrderTerm := ⟨column, none, true⟩

def desc (column : String) : OrderTerm := ⟨column, none, false⟩

def inTable (t : OrderTerm) (table : String) : OrderTerm := { t with table := some table }

end OrderTerm

/-- The optional clauses of a query. -/
structure SelectOptions where
  innerJoins : List InnerJoin := []
  filter : Option Predicate := none
  orderBy : List OrderTerm := []
  distinct : Bool := false
  limit : Option UInt64 := none
  offset : Option UInt64 := none
deriving Repr, Inhabited

namespace SelectOptions

def addJoin (o : SelectOptions) (j : InnerJoin) : SelectOptions :=
  { o with innerJoins := o.innerJoins ++ [j] }

def withFilter (o : SelectOptions) (p : Predicate) : SelectOptions := { o with filter := some p }

def addOrder (o : SelectOptions) (t : OrderTerm) : SelectOptions :=
  { o with orderBy := o.orderBy ++ [t] }

def makeDistinct (o : SelectOptions) : SelectOptions := { o with distinct := true }

def withLimit (o : SelectOptions) (n : UInt64) : SelectOptions := { o with limit := some n }

def withOffset (o : SelectOptions) (n : UInt64) : SelectOptions := { o with offset := some n }

end SelectOptions

end ParamSql
