import ParamSql.Alteration
import ParamSql.Document.Column

/-!
# Alterations in documents

A document gives an alteration in its loose form, which is then made strict.

## Main definitions

* `RenameColumn.decoder`, `AlterOptions.decoder`, `Alteration.decoder` and the encoders beside them
-/

namespace ParamSql

open Document (Node Decoder Field Values optionMember textMember)

namespace RenameColumn

def fields : List Field :=
  [.required "column_name" Decoder.text, .required "new_column_name" Decoder.text]

def ofValues : Values fields → RenameColumn :=
  fun (columnName, newColumnName, _) => ⟨columnName, newColumnName⟩

def decoder : Decoder RenameColumn := fun src n => (Decoder.record fields src n).map ofValues

def encode (r : RenameColumn) : Node :=
  .record [("column_name", .text r.columnName), ("new_column_name", .text r.newColumnName)]

end RenameColumn

namespace AlterOptions

def fields : List Field :=
  [.optional "add_column" ColumnDef.decoder.option none,
   .optional "drop_column_name" Decoder.text.option none,
   .optional "new_table_name" Decoder.text.option none,
   .optional "rename_column" RenameColumn.decoder.option none]

def ofValues : Values fields → AlterOptions :=
  fun (addColumn, dropColumnName, newTableName, renameColumn, _) =>
    ⟨addColumn, dropColumnName, newTableName, renameColumn⟩

def decoder : Decoder AlterOptions := fun src n => (Decoder.record fields src n).map ofValues

/-- Only the operations that are given. -/
def encode (o : AlterOptions) : Node :=
  .record (optionMember "add_column" ColumnDef.encode o.addColumn ++
    textMember "drop_column_name" o.dropColumnName ++
    textMember "new_table_name" o.newTableName ++
    optionMember "rename_column" RenameColumn.encode o.renameColumn)

end AlterOptions

/-- Reads the loose form and makes it strict. -/
def Alteration.decoder : Decoder Alteration :=
  AlterOptions.decoder.refine AlterOptions.toAlteration

def Alteration.encode (a : Alteration) : Node := a.toOptions.encode

end ParamSql
