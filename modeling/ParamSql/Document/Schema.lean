import ParamSql.Document.Column
import ParamSql.Document.Selection
import ParamSql.Schema

/-!
# Schemas in documents

## Main definitions

* `Table.decoder`, `View.decoder`, `Index.decoder`, `Schema.decoder` and the encoders beside them
-/

namespace ParamSql

open Document (Node Decoder Field Values)

namespace Table

def fields : List Field :=
  [.required "name" Decoder.text, .required "columns" ColumnDef.decoder.list]

def ofValues : Values fields → Table := fun (name, columns, _) => ⟨name, columns⟩

def decoder : Decoder Table := fun src n => (Decoder.record fields src n).map ofValues

def encode (t : Table) : Node :=
  .record [("name", .text t.name), ("columns", .list (t.columns.map (·.encode)))]

end Table

namespace View

def fields : List Field :=
  [.required "name" Decoder.text,
   .required "table" Decoder.text,
   .required "columns" SelectColumn.decoder.list,
   .optional "options" SelectOptions.decoder.option none]

def ofValues : Values fields → View :=
  fun (name, table, columns, options, _) => ⟨name, table, columns, options⟩

def decoder : Decoder View := fun src n => (Decoder.record fields src n).map ofValues

def encode (v : View) : Node :=
  .record [("name", .text v.name), ("table", .text v.table),
    ("columns", .list (v.columns.map (·.encode))),
    ("options", Document.orNull SelectOptions.encode v.options)]

end View

namespace Index

def fields : List Field :=
  [.required "name" Decoder.text,
   .required "table" Decoder.text,
   .required "columns" Decoder.text.list,
   .optional "filter" Predicate.decoder.option none ["where"]]

def ofValues : Values fields → Index :=
  fun (name, table, columns, filter, _) => ⟨name, table, columns, filter⟩

def decoder : Decoder Index := fun src n => (Decoder.record fields src n).map ofValues

def encode (i : Index) : Node :=
  .record [("name", .text i.name), ("table", .text i.table),
    ("columns", .list (i.columns.map .text)), ("filter", Document.encodeFilter i.filter)]

end Index

namespace Schema

def fields : List Field :=
  [.optional "tables" Table.decoder.list [],
   .optional "views" View.decoder.list [],
   .optional "indexes" Index.decoder.list []]

def ofValues : Values fields → Schema := fun (tables, views, indexes, _) => ⟨tables, views, indexes⟩

def decoder : Decoder Schema := fun src n => (Decoder.record fields src n).map ofValues

def encode (s : Schema) : Node :=
  .record [("tables", .list (s.tables.map (·.encode))), ("views", .list (s.views.map (·.encode))),
    ("indexes", .list (s.indexes.map (·.encode)))]

end Schema

end ParamSql
