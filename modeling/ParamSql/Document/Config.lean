import ParamSql.Config
import ParamSql.Document.Decoder

/-!
# Configuration in documents

Everything may be left out.

## Main definitions

* `DatabaseConfig.decoder`, `Config.decoder`
-/

namespace ParamSql

open Document (Decoder Field Values)

namespace DatabaseConfig

def fields : List Field :=
  [.optional "url" Decoder.text.option none,
   .optional "read_only" Decoder.bool false,
   .optional "create_if_missing" Decoder.bool true,
   .optional "max_connections" Decoder.uint32 5]

def ofValues : Values fields → DatabaseConfig :=
  fun (url, readOnly, createIfMissing, maxConnections, _) =>
    ⟨url, readOnly, createIfMissing, maxConnections⟩

def decoder : Decoder DatabaseConfig := fun src n => (Decoder.record fields src n).map ofValues

end DatabaseConfig

namespace Config

def fields : List Field :=
  [.optional "database" DatabaseConfig.decoder {}, .optional "log_level" Decoder.text "warn"]

def ofValues : Values fields → Config := fun (database, logLevel, _) => ⟨database, logLevel⟩

def decoder : Decoder Config := fun src n => (Decoder.record fields src n).map ofValues

end Config

end ParamSql
