import ParamSql.Proofs.Boolean.Comparison
import ParamSql.Proofs.Declaration.Table

/-!
# Reading the texts of rows

    insert  ::=  'INSERT INTO ' name '(' names ') VALUES(' marks ');'
    select  ::=  'SELECT ' names ' FROM ' name ';'
    names   ::=  (name (',' name)*)?
    marks   ::=  ('?' (',' '?')*)?

A new row has as many placeholders as it names columns.  They are not told apart, so all that
says which value goes to which column is the place in the list.  A keyword is no name: the list
of names in a query ends where `FROM` begins.

## Main definitions

* `Sql.readInsert`, `Sql.readSelect`: the table and the columns of a new row or of a query

## Main results

* `Sql.readInsert_insert`, `Sql.readSelect_select`: both texts are read back
-/

namespace ParamSql.Sql

open Reader (separated)

/-! ## Readers -/

/-- Reads a whole text as a new row. -/
def readInsert (text : String) : Option (String × List String) := do
  let (_, rest) ← Reader.symbol "INSERT INTO ".toList text.toList
  let (table, rest) ← name rest
  let (_, rest) ← Reader.symbol "(".toList rest
  let (columns, rest) := separated ",".toList name rest
  let (_, rest) ← Reader.symbol ") VALUES(".toList rest
  let (marks, rest) := separated ",".toList (Reader.symbol "?".toList) rest
  let (_, rest) ← Reader.symbol ");".toList rest
  if rest = [] ∧ marks.length = columns.length then return (table, columns) else none

/-- Reads a whole text as a query for columns of all rows. -/
def readSelect (text : String) : Option (String × List String) := do
  let (_, rest) ← Reader.symbol "SELECT ".toList text.toList
  let (columns, rest) := separated ",".toList name rest
  let (_, rest) ← Reader.symbol " FROM ".toList rest
  let (table, rest) ← name rest
  let (_, rest) ← Reader.symbol ";".toList rest
  if rest = [] then return (table, columns) else none

/-! ## Names -/

variable {table : String} {columns : List String} {rest : List Char}

/-- **Names with commas between them are read back**, each of them whole, in front of what is no
name and no comma. -/
theorem separated_name (hc : ∀ c ∈ columns, IsName c) (hends : EndsWord rest)
    (hnone : name rest = none) (hcomma : ∀ more, rest ≠ ",".toList ++ more) :
    separated ",".toList name
      ((String.intercalate "," columns).toList ++ rest) = (columns, rest) := by
  have hsep : ∀ more, EndsWord (",".toList ++ more) := fun _ => endsWord_cons rfl _
  have hread : ∀ c ∈ columns, ∀ more, EndsWord more → name (c.toList ++ more) = some (c, more) :=
    fun c hmem _ => name_append (hc c hmem)
  have hlist := Reader.separated_listed (by decide) hsep hends hnone
    (fun more heq => absurd heq (hcomma more)) hread
  have htext := toList_intercalate "," columns fun c => c
  rw [List.map_id'] at hlist htext
  rwa [htext]

/-- Placeholders with commas between them are counted. -/
theorem separated_mark (hnone : Reader.symbol "?".toList rest = none)
    (hcomma : ∀ more, rest ≠ ",".toList ++ more) :
    separated ",".toList (Reader.symbol "?".toList)
      ((String.intercalate "," (columns.map fun _ => "?")).toList ++ rest) =
        (columns.map fun _ => (), rest) := by
  have hread : ∀ c ∈ columns, ∀ more, True →
      Reader.symbol "?".toList ("?".toList ++ more) = some ((), more) :=
    fun _ _ more _ => Reader.symbol_append _ more
  rw [toList_intercalate]
  exact Reader.separated_listed (by decide) (fun _ => trivial) trivial hnone
    (fun more heq => absurd heq (hcomma more)) hread

/-! ## Texts -/

/-- The text of a new row, by its parts. -/
theorem insert_eq (table : String) (columns : List String) : insert table columns =
    "INSERT INTO " ++ table ++ "(" ++ String.intercalate "," columns ++ ") VALUES(" ++
      String.intercalate "," (columns.map fun _ => "?") ++ ");" := rfl

/-- The text of a query for columns of all rows, by its parts. -/
theorem select_eq (table : String) (columns : List String) :
    select table (columns.map .raw) {} =
      "SELECT " ++ String.intercalate "," columns ++ " FROM " ++ table ++ ";" := by
  have hlist : selectList (columns.map .raw) = String.intercalate "," columns := by
    rw [selectList, List.map_map]
    exact congrArg _ (List.map_id' columns)
  have hsql : select table (columns.map .raw) {} = "SELECT " ++ "" ++ selectList (columns.map .raw) ++
      " FROM " ++ table ++ spaced ["", "", "", ""] ++ ";" := rfl
  have hnone : spaced ["", "", "", ""] = "" := by decide
  rw [hsql, hlist, hnone, String.append_empty, String.append_empty]

/-- **The text of a new row is read back** with its columns in their order. -/
theorem readInsert_insert (ht : IsName table) (hc : ∀ c ∈ columns, IsName c) :
    readInsert (insert table columns) = some (table, columns) := by
  have htext : (insert table columns).toList = "INSERT INTO ".toList ++ (table.toList ++ ("(".toList ++
      ((String.intercalate "," columns).toList ++ (") VALUES(".toList ++
        ((String.intercalate "," (columns.map fun _ => "?")).toList ++ ");".toList))))) := by
    rw [insert_eq]
    simp only [String.toList_append, List.append_assoc]
  have hopen : ∀ cs, EndsWord ("(".toList ++ cs) := fun _ => endsWord_cons rfl _
  have hclose : ∀ cs, EndsWord (") VALUES(".toList ++ cs) := fun _ => endsWord_cons rfl _
  have hnames : ∀ cs, separated ",".toList name ((String.intercalate "," columns).toList ++
      (") VALUES(".toList ++ cs)) = (columns, ") VALUES(".toList ++ cs) := fun cs =>
    separated_name hc (hclose cs) rfl (by rintro more ⟨⟩)
  have hmarks : separated ",".toList (Reader.symbol "?".toList)
      ((String.intercalate "," (columns.map fun _ => "?")).toList ++ ");".toList) =
        (columns.map fun _ => (), ");".toList) := separated_mark rfl (by rintro more ⟨⟩)
  have hend : Reader.symbol ");".toList ");".toList = some ((), []) := rfl
  rw [readInsert, htext]
  simp only [Reader.symbol_append, name_append ht (hopen _), hnames, hmarks, hend,
    List.length_map, Option.bind_eq_bind, Option.bind_some, and_self, if_true, Option.pure_def]

/-- **The text of a query is read back** with its columns in their order. -/
theorem readSelect_select (ht : IsName table) (hc : ∀ c ∈ columns, IsName c) :
    readSelect (select table (columns.map .raw) {}) = some (table, columns) := by
  have htext : (select table (columns.map .raw) {}).toList = "SELECT ".toList ++
      ((String.intercalate "," columns).toList ++ (" FROM ".toList ++
        (table.toList ++ ";".toList))) := by
    rw [select_eq]
    simp only [String.toList_append, List.append_assoc]
  have hspace : ∀ cs, EndsWord (" FROM ".toList ++ cs) := fun _ => endsWord_cons rfl _
  -- the word behind the last column is a keyword, so it is no further column
  have hfrom : ∀ cs, name (" FROM ".toList ++ cs) = none := by
    intro cs
    have hword : word (" FROM ".toList ++ cs) = some ("FROM".toList, ' ' :: cs) := by
      have hread := word_append (w := "FROM".toList) rfl (endsWord_cons (c := ' ') rfl cs)
      rw [show " FROM ".toList ++ cs = ' ' :: ("FROM".toList ++ ' ' :: cs) from rfl]
      simpa [word, skipSpace, isSpace] using hread
    rw [name, hword]
    rfl
  have hnames : ∀ cs, separated ",".toList name ((String.intercalate "," columns).toList ++
      (" FROM ".toList ++ cs)) = (columns, " FROM ".toList ++ cs) := fun cs =>
    separated_name hc (hspace cs) (hfrom cs) (by rintro more ⟨⟩)
  have htable : name (table.toList ++ ";".toList) = some (table, ";".toList) :=
    name_append ht (endsWord_cons rfl [])
  have hend : Reader.symbol ";".toList ";".toList = some ((), []) := rfl
  rw [readSelect, htext]
  simp only [Reader.symbol_append, hnames, htable, hend, Option.bind_eq_bind, Option.bind_some,
    if_true, Option.pure_def]

end ParamSql.Sql
