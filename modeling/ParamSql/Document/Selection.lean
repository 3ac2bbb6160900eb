import ParamSql.Document.Predicate
import ParamSql.Selection

/-!
# Selections in documents

## Main definitions

* `InnerJoin.decoder`, `OrderTerm.decoder`, `SelectOptions.decoder` and the encoders beside them
-/

namespace ParamSql

open Document (Node Decoder Field Values listMember optionMember textMember)

namespace InnerJoin

def fields : List Field :=
  [.required "this_column" Decoder.text,
   .required "other_table" Decoder.text ["other_table_name"],
   .required "other_column" Decoder.text]

def ofValues : Values fields → InnerJoin :=
  fun (thisColumn, otherTable, otherColumn, _) => ⟨thisColumn, otherTable, otherColumn⟩

def decoder : Decoder InnerJoin := fun src n => (Decoder.record fields src n).map ofValues

def encode (j : InnerJoin) : Node :=
  .record [("this_column", .text j.thisColumn), ("other_table", .text j.otherTable),
    ("other_column", .text j.otherColumn)]

end InnerJoin

namespace OrderTerm

def fields : List Field :=
  [.required "column" Decoder.text,
   .optional "table" Decoder.text.option none ["table_name"],
   .optional "ascending" Decoder.bool true]

def ofValues : Values fields → OrderTerm :=
  fun (column, table, ascending, _) => ⟨column, table, ascending⟩

def decoder : Decoder OrderTerm := fun src n => (Decoder.record fields src n).map ofValues

def encode (t : OrderTerm) : Node :=
  .record ([("column", .text t.column)] ++ textMember "table" t.table ++
    [("ascending", .bool t.ascending)])

end OrderTerm

namespace SelectOptions

def fields : List Field :=
  [.optional "inner_joins" InnerJoin.decoder.list [],
   .optional "filter" Predicate.decoder.option none ["where"],
   .optional "order_by" OrderTerm.decoder.list [],
   .optional "distinct" Decoder.bool false ["unique"],
   .optional "limit" Decoder.uint64.option none,
   .optional "offset" Decoder.uint64.option none ["limit_offset"]]

def ofValues : Values fields → SelectOptions :=
  fun (innerJoins, filter, orderBy, distinct, limit, offset, _) =>
    ⟨innerJoins, filter, orderBy, distinct, limit, offset⟩

def decoder : Decoder SelectOptions := fun src n => (Decoder.record fields src n).map ofValues

/-- A number member that is there only when it has a value. -/
def numberMember (name : String) (n : Option UInt64) : List (String × Node) :=
  optionMember name (fun n => .int n.toNat) n

def encode (o : SelectOptions) : Node :=
  .record (listMember "inner_joins" (o.innerJoins.map (·.encode)) ++
    optionMember "filter" Predicate.encode o.filter ++
    listMember "order_by" (o.orderBy.map (·.encode)) ++
    [("distinct", .bool o.distinct)] ++
    numberMember "limit" o.limit ++ numberMember "offset" o.offset)

end SelectOptions

end ParamSql
