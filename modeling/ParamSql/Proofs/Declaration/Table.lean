import Mathlib.Data.List.Nodup
import ParamSql.Proofs.Declaration.Reader
import ParamSql.Proofs.Legible.Text

/-!
# Declarations of tables are read back

The text that creates a table tells the table and each of its columns.  Behind a definition, a
key clause and a reference stands a comma or the last parenthesis, neither of which goes on with
a word, a modifier or a plain text, so every part is read up to its end.  Behind the definitions
the words `PRIMARY KEY` and `FOREIGN KEY` are no definition, whatever the columns are called,
since `KEY` is no type.  The key columns and the references are found again by the names of the
columns, as no two columns share one.

## Main definitions

* `ColumnDef.definition`, `ColumnDef.reference`, `ColumnDef.told`: what is told of a column
* `ColumnDef.Readable`: the names are words, and defaults and actions are plain

## Main results

* `Sql.columnDefinition?_append`, `Sql.primaryKey?_append`, `Sql.reference?_append`: the parts
* `Sql.readTable_eq`: a whole declaration, in the order of its text
* `Sql.readTable_createTable`: a whole declaration and each of its columns
-/

namespace ParamSql

open Sql

/-! ## Parts that may be missing, and parts behind a separator -/

namespace Reader

variable {α β : Type} {reader : Reader β} {text : α → List Char} {value : α → β}
  {w rest : List Char}

theorem symbol_eq_none (h : ∀ more, rest ≠ w ++ more) : symbol w rest = none := by
  cases hs : symbol w rest with
  | none => rfl
  | some r => exact absurd (symbol_eq_some_iff.mp hs) (h r.2)

theorem behindSymbol_append (w cs : List Char) : behindSymbol w reader (w ++ cs) = reader cs := by
  rw [behindSymbol, symbol_append]

theorem behindSymbol_eq_none (h : ∀ more, rest ≠ w ++ more) :
    behindSymbol w reader rest = none := by
  rw [behindSymbol, symbol_eq_none h]

/-- A symbol that may be missing is read where it is there. -/
theorem flag_append (b : Bool) (h : ∀ more, rest ≠ w ++ more) :
    flag w ((if b then w else []) ++ rest) = (b, rest) := by
  cases b with
  | true => simp only [flag, if_true, symbol_append]
  | false => simp [flag, symbol_eq_none h]

/-- A part that may be missing is read where it is there. -/
theorem optional_append {o : Option α}
    (hsome : ∀ a ∈ o, reader (text a ++ rest) = some (value a, rest))
    (hnone : reader rest = none) :
    optional reader (o.toList.flatMap text ++ rest) = (o.map value, rest) := by
  cases o with
  | none => simp [optional, hnone]
  | some a => simp [optional, hsome a rfl]

/-- **Parts with a separator between them are read back**, each in front of the next one and of
the end.  What follows is no part, also behind a further separator. -/
theorem separated_listed {stop : List Char → Prop} {as : List α} (hw : w ≠ [])
    (hsep : ∀ more, stop (w ++ more)) (hend : stop rest) (hnone : reader rest = none)
    (hfurther : ∀ more, rest = w ++ more → reader more = none)
    (h : ∀ a ∈ as, ∀ more, stop more → reader (text a ++ more) = some (value a, more)) :
    separated w reader (listed [] w text as ++ rest) = (as.map value, rest) := by
  cases as with
  | nil => rw [listed, List.nil_append, separated, hnone, List.map_nil]
  | cons a as =>
    obtain ⟨ha, has⟩ := List.forall_mem_cons.mp h
    have hlast : behindSymbol w reader rest = none := by
      cases hs : symbol w rest with
      | none => rw [behindSymbol, hs]
      | some r =>
        rw [behindSymbol, hs]
        exact hfurther r.2 (symbol_eq_some_iff.mp hs)
    have hmany : many (behindSymbol w reader) (as.flatMap (w ++ text ·) ++ rest) =
        (as.map value, rest) := by
      have hnext : ∀ (b : α) (more : List Char), stop ((w ++ text b) ++ more) := by
        intro b more
        rw [List.append_assoc]
        exact hsep _
      refine many_flatMap hnext hend hlast ?_ fun b hb more hmore => ?_
      · intro b _ hnil
        exact hw (List.append_eq_nil_iff.mp hnil).1
      · rw [List.append_assoc, behindSymbol_append]
        exact has b hb more hmore
    rw [listed, List.nil_append, List.append_assoc, separated, ha _ (stop_flatMap hsep hend)]
    simp only [hmany, List.map_cons]

end Reader

/-! ## Columns -/

namespace ColumnDef

/-- What the definition of the column tells. -/
def definition (c : ColumnDef) : ColumnDefinition :=
  ⟨c.name, c.type, c.options.unique, c.options.notNull, c.options.default.map (·.text)⟩

/-- What the foreign key of a column tells. -/
def referenceTo (name : String) (f : ForeignKey) : Reference :=
  ⟨name, f.table, f.column, String.intercalate " " f.options⟩

/-- What is told of what the column refers to, if it refers to something. -/
def reference (c : ColumnDef) : Option Reference := c.foreign.map (referenceTo c.name)

/-- What is told of the column in all. -/
def told (c : ColumnDef) : ColumnText := ⟨c.definition, c.options.primaryKey, c.reference⟩

end ColumnDef

namespace Sql

open Reader (symbol flag optional behindSymbol separated many)

/-- The text neither separates nor encloses anything. -/
def Plain (s : String) : Prop := s.toList.all isPlain = true

instance (s : String) : Decidable (Plain s) :=
  inferInstanceAs (Decidable (s.toList.all isPlain = true))

end Sql

/-- The names of the column are words, and its default and the actions of its foreign key have no
comma and no parenthesis. -/
structure ColumnDef.Readable (c : ColumnDef) : Prop where
  name : isWord c.name.toList = true
  default : ∀ d ∈ c.options.default, Plain d.text
  table : ∀ f ∈ c.foreign, isWord f.table.toList = true
  column : ∀ f ∈ c.foreign, isWord f.column.toList = true
  actions : ∀ f ∈ c.foreign, Plain (String.intercalate " " f.options)

namespace Sql

open Reader (symbol flag optional behindSymbol separated many)

variable {rest : List Char}

theorem anyWord_append {s : String} (h : isWord s.toList = true) (hrest : EndsWord rest) :
    anyWord (s.toList ++ rest) = some (s, rest) := by
  rw [anyWord, word_append h hrest]
  simp

theorem anyWord_space (cs : List Char) : anyWord (' ' :: cs) = anyWord cs := rfl

theorem plain_append {s : String} (h : Plain s) (hrest : ∀ c ∈ rest.head?, isPlain c = false) :
    plain (s.toList ++ rest) = some (s, rest) := by
  have hrun := List.all_eq_true.mp h
  rw [plain, Reader.takeWhile_run hrun hrest, Reader.dropWhile_run hrun hrest, String.ofList_toList]

/-- The text goes on with the next part, or ends the list of parts. -/
def EndsPart (cs : List Char) : Prop := Begins [",", ")"] cs

theorem EndsPart.endsWord (h : EndsPart rest) : EndsWord rest := by
  intro c hc
  have hother := h.forall_head (p := fun c => !isWordRest c) (by decide) c hc
  simpa using hother

theorem EndsPart.not_plain (h : EndsPart rest) : ∀ c ∈ rest.head?, isPlain c = false := by
  intro c hc
  have hother := h.forall_head (p := fun c => !isPlain c) (by decide) c hc
  simpa using hother

theorem Begins.flag {words : List String} {w : String} {cs : List Char} (h : Begins words cs)
    (flag : Bool) : Begins (w :: words) ((if flag then w.toList else []) ++ cs) := by
  cases flag with
  | true => exact .head cs
  | false => exact h.tail

theorem Begins.mono {words words' : List String} {cs : List Char} (h : Begins words cs)
    (hwords : ∀ w ∈ words, ∃ v ∈ words', v.toList <+: w.toList) : Begins words' cs := by
  obtain ⟨w, hw, hcs⟩ := h
  obtain ⟨v, hv, hvw⟩ := hwords w hw
  exact ⟨v, hv, hvw.trans hcs⟩

/-! ## Definitions -/

/-- The default of a column, behind its word. -/
def defaultText (default : Option DefaultValue) : List Char :=
  default.toList.flatMap fun d => " DEFAULT ".toList ++ d.text.toList

theorem toList_columnDefinition (c : ColumnDef) :
    (columnDefinition c).toList = c.name.toList ++ (' ' :: (c.type.word.toList ++
      ((if c.options.unique then " UNIQUE".toList else []) ++
        ((if c.options.notNull then " NOT NULL".toList else []) ++
          defaultText c.options.default)))) := by
  unfold columnDefinition columnModifiers defaultText
  cases c.options.unique <;> cases c.options.notNull <;> cases c.options.default <;> simp

/-- **A definition is read back** in front of the next part. -/
theorem columnDefinition?_append {c : ColumnDef} (hc : c.Readable) (hrest : EndsPart rest) :
    columnDefinition? ((columnDefinition c).toList ++ rest) = some (c.definition, rest) := by
  have hword : isWord c.type.word.toList = true := by cases c.type <;> decide
  have hspace : ∀ cs, EndsWord (' ' :: cs) := endsWord_cons rfl
  have hdefault : Begins [" DEFAULT ", ",", ")"] (defaultText c.options.default ++ rest) := by
    unfold defaultText
    cases c.options.default with
    | none => exact hrest.tail
    | some d =>
      rw [Option.toList_some, List.flatMap_singleton, List.append_assoc]
      exact .head _
  have hnotNull := hdefault.flag (w := " NOT NULL") c.options.notNull
  have hunique := hnotNull.flag (w := " UNIQUE") c.options.unique
  have hends : EndsWord _ := fun d hd => by
    simpa using hunique.forall_head (p := fun d => !isWordRest d) (by decide) d hd
  have hplain : optional (behindSymbol " DEFAULT ".toList plain)
      (defaultText c.options.default ++ rest) = (c.options.default.map (·.text), rest) := by
    refine Reader.optional_append (fun d hd => ?_) ?_
    · rw [List.append_assoc, Reader.behindSymbol_append]
      exact plain_append (hc.default d hd) hrest.not_plain
    · exact Reader.behindSymbol_eq_none (hrest.ne_append (by decide))
  have hreadUnique := Reader.flag_append (w := " UNIQUE".toList) c.options.unique
    (hnotNull.ne_append (by decide))
  have hreadNotNull := Reader.flag_append (w := " NOT NULL".toList) c.options.notNull
    (hdefault.ne_append (by decide))
  simp only [toList_columnDefinition, List.append_assoc, List.cons_append, columnDefinition?,
    anyWord_append hc.name (hspace _), anyWord_space, anyWord_append hword hends,
    ColumnType.ofWord?_word, hreadUnique, hreadNotNull, hplain, Option.bind_eq_bind,
    Option.bind_some, Option.pure_def]
  rfl

/-- A word in front of `KEY` does not begin a definition: `KEY` is no type. -/
theorem columnDefinition?_key {w : String} (hw : isWord w.toList = true) (more : List Char) :
    columnDefinition? (w.toList ++ (" KEY (".toList ++ more)) = none := by
  have hspace : ∀ cs, EndsWord (' ' :: cs) := endsWord_cons rfl
  have hkey : isWord "KEY".toList = true := by decide
  have htype : ColumnType.ofWord? "KEY" = none := by decide
  have hwords : " KEY (".toList = ' ' :: ("KEY".toList ++ ' ' :: "(".toList) := by decide
  simp only [columnDefinition?, hwords, List.cons_append, List.append_assoc,
    anyWord_append hw (hspace _), anyWord_space, anyWord_append hkey (hspace _), htype,
    Option.bind_eq_bind, Option.bind_some, Option.bind_none]

/-! ## Keys -/

/-- The names of the key columns in the order of the columns, if there are key columns. -/
def keyNames? (columns : List ColumnDef) : Option (List String) :=
  if columns.any (·.options.primaryKey) then
    some ((columns.filter (·.options.primaryKey)).map (·.name))
  else none

theorem getD_keyNames? (columns : List ColumnDef) :
    (keyNames? columns).getD [] =
      (columns.filter (·.options.primaryKey)).map (·.name) := by
  rw [keyNames?]
  split
  · rfl
  · next hnone =>
    have hfilter : columns.filter (·.options.primaryKey) = [] := by
      simpa [List.filter_eq_nil_iff] using hnone
    rw [hfilter]
    rfl

/-- The key clause, behind its comma. -/
def keyText (names : List String) : List Char :=
  ",".toList ++ ("PRIMARY KEY (" ++ String.intercalate "," names ++ ")").toList

theorem toList_keyText (names : List String) :
    keyText names =
      ",PRIMARY KEY (".toList ++ (listed [] ",".toList String.toList names ++ ")".toList) := by
  have hnames := toList_intercalate "," names id
  rw [List.map_id] at hnames
  simp [keyText, -String.toList_intercalate, hnames]

theorem toList_primaryKeyClause? (columns : List ColumnDef) :
    (primaryKeyClause? columns).toList.flatMap (",".toList ++ String.toList ·) =
      (keyNames? columns).toList.flatMap keyText := by
  have hempty : ((columns.filter (·.options.primaryKey)).map (·.name)).isEmpty = true ↔
      ¬ columns.any (·.options.primaryKey) = true := by
    simp [List.filter_eq_nil_iff]
  rw [primaryKeyClause?, keyNames?]
  by_cases hany : columns.any (·.options.primaryKey) = true
  · simp only [if_pos hany, if_neg fun h => hempty.mp h hany, Option.toList_some,
      List.flatMap_singleton, keyText]
  · simp only [if_neg hany, if_pos (hempty.mpr hany), Option.toList_none, List.flatMap_nil]

/-- **A key clause is read back**, whatever stands behind it. -/
theorem primaryKey?_append {names : List String} (h : ∀ n ∈ names, isWord n.toList = true)
    (rest : List Char) : primaryKey? (keyText names ++ rest) = some (names, rest) := by
  have hclose : Begins [")"] (")".toList ++ rest) := .head rest
  have hnames : separated ",".toList anyWord
      (listed [] ",".toList String.toList names ++ (")".toList ++ rest)) =
        (names, ")".toList ++ rest) := by
    have hcomma : ∀ more, EndsWord (",".toList ++ more) := fun _ => endsWord_cons rfl _
    have hend : EndsWord (")".toList ++ rest) := endsWord_cons rfl _
    have hnone : anyWord (")".toList ++ rest) = none := rfl
    have hfurther : ∀ more, ")".toList ++ rest = ",".toList ++ more → anyWord more = none :=
      fun more heq => absurd heq (hclose.ne_append (by decide) more)
    have hwords : ∀ n ∈ names, ∀ more, EndsWord more →
        anyWord (n.toList ++ more) = some (n, more) := fun n hn _ => anyWord_append (h n hn)
    have hread := Reader.separated_listed (by decide) hcomma hend hnone hfurther hwords
    rwa [List.map_id'] at hread
  simp only [toList_keyText, List.append_assoc, primaryKey?, Reader.symbol_append, hnames,
    Option.bind_eq_bind, Option.bind_some, Option.pure_def]

/-! ## References -/

/-- The columns that refer to something, with what they refer to. -/
def foreignKeys (columns : List ColumnDef) : List (String × ForeignKey) :=
  columns.filterMap fun c => c.foreign.map (c.name, ·)

/-- A foreign key, behind its comma. -/
def referenceText (r : String × ForeignKey) : List Char :=
  ",".toList ++ (foreignKeyClause r.1 r.2).toList

/-- The actions of a foreign key, with a space in front of them. -/
def actionsText (options : List String) : String :=
  if options.isEmpty then "" else " " ++ String.intercalate " " options

theorem toList_referenceText (name : String) (f : ForeignKey) :
    referenceText (name, f) = ",FOREIGN KEY (".toList ++ (name.toList ++
      (") REFERENCES ".toList ++ (f.table.toList ++ (" (".toList ++ (f.column.toList ++
        (")".toList ++ (actionsText f.options).toList)))))) := by
  unfold referenceText foreignKeyClause references
  simp [actionsText]

theorem plain_actionsText {options : List String} (h : Plain (String.intercalate " " options)) :
    Plain (actionsText options) := by
  rw [actionsText]
  split
  · rfl
  · rw [Plain, String.toList_append, List.all_append, Bool.and_eq_true]
    exact ⟨rfl, h⟩

theorem drop_actionsText (options : List String) :
    String.ofList ((actionsText options).toList.drop 1) = String.intercalate " " options := by
  cases options with
  | nil => rfl
  | cons o os =>
    rw [actionsText, if_neg (by simp), String.toList_append]
    exact String.ofList_toList

/-- **A foreign key is read back** in front of the next part. -/
theorem reference?_append {name : String} {f : ForeignKey} (hname : isWord name.toList = true)
    (htable : isWord f.table.toList = true) (hcolumn : isWord f.column.toList = true)
    (hactions : Plain (String.intercalate " " f.options)) (hrest : EndsPart rest) :
    reference? (referenceText (name, f) ++ rest) =
      some (ColumnDef.referenceTo name f, rest) := by
  have hclose : ∀ cs, EndsWord (")".toList ++ cs) := fun _ => endsWord_cons rfl _
  have hrefers : ∀ cs, EndsWord (") REFERENCES ".toList ++ cs) := fun _ => endsWord_cons rfl _
  have hopen : ∀ cs, EndsWord (" (".toList ++ cs) := fun _ => endsWord_cons rfl _
  simp only [toList_referenceText, List.append_assoc, reference?, Reader.symbol_append,
    anyWord_append hname (hrefers _), anyWord_append htable (hopen _),
    anyWord_append hcolumn (hclose _), plain_append (plain_actionsText hactions) hrest.not_plain,
    drop_actionsText, Option.bind_eq_bind, Option.bind_some, Option.pure_def]
  rfl

/-! ## Behind the definitions -/

/-- What stands behind the keys: the references and the end. -/
def behindKeys (columns : List ColumnDef) : List Char :=
  (foreignKeys columns).flatMap referenceText ++ ");".toList

/-- What stands behind the definitions. -/
def behindDefinitions (columns : List ColumnDef) : List Char :=
  (keyNames? columns).toList.flatMap keyText ++ behindKeys columns

theorem begins_behindKeys (columns : List ColumnDef) :
    Begins [",FOREIGN KEY (", ");"] (behindKeys columns) := by
  unfold behindKeys
  cases foreignKeys columns with
  | nil => exact Begins.tail ⟨");", List.mem_singleton_self _, List.prefix_rfl⟩
  | cons r rs =>
    rw [List.flatMap_cons, List.append_assoc, toList_referenceText, List.append_assoc]
    exact .head _

theorem begins_behindDefinitions (columns : List ColumnDef) :
    Begins [",PRIMARY KEY (", ",FOREIGN KEY (", ");"] (behindDefinitions columns) := by
  unfold behindDefinitions
  cases keyNames? columns with
  | none => exact (begins_behindKeys columns).tail
  | some names =>
    rw [Option.toList_some, List.flatMap_singleton, toList_keyText, List.append_assoc]
    exact .head _

theorem endsPart_behindDefinitions (columns : List ColumnDef) :
    EndsPart (behindDefinitions columns) :=
  (begins_behindDefinitions columns).mono (by decide)

/-- Behind the definitions stands none, for lack of a name. -/
theorem columnDefinition?_behindDefinitions (columns : List ColumnDef) :
    columnDefinition? (behindDefinitions columns) = none := by
  have hhead := (begins_behindDefinitions columns).forall_head
    (p := fun c => !isSpace c && !isWordStart c) (by decide)
  have hword : word (behindDefinitions columns) = none := by
    cases hcs : behindDefinitions columns with
    | nil => rfl
    | cons c cs =>
      have hc := hhead c (by rw [hcs]; rfl)
      simp only [Bool.and_eq_true, Bool.not_eq_true'] at hc
      simp [word, skipSpace_cons hc.1, hc.2]
  simp [columnDefinition?, anyWord, hword]

/-- Behind the comma there, no definition stands either, for lack of a type. -/
theorem columnDefinition?_behindComma {columns : List ColumnDef} {more : List Char}
    (h : behindDefinitions columns = ",".toList ++ more) : columnDefinition? more = none := by
  obtain ⟨w, hw, rest, hrest⟩ := begins_behindDefinitions columns
  rw [h] at hrest
  have hclause : ∀ v : String, isWord v.toList = true →
      w.toList = ",".toList ++ (v.toList ++ " KEY (".toList) → columnDefinition? more = none := by
    intro v hv hwords
    rw [hwords, List.append_assoc, List.append_assoc] at hrest
    rw [← List.append_cancel_left hrest]
    exact columnDefinition?_key hv rest
  simp only [List.mem_cons, List.not_mem_nil, or_false] at hw
  obtain rfl | rfl | rfl := hw
  · exact hclause "PRIMARY" (by decide) (by decide)
  · exact hclause "FOREIGN" (by decide) (by decide)
  · have hend : Begins [");"] (");".toList ++ rest) := .head rest
    exact absurd hrest (hend.ne_append (by decide) more)

/-! ## Whole declarations -/

theorem toList_createTable (table : String) (columns : List ColumnDef) (ifNotExists : Bool) :
    (createTable table columns ifNotExists).toList = "CREATE TABLE ".toList ++
      ((if ifNotExists then "IF NOT EXISTS ".toList else []) ++ (table.toList ++ (" (".toList ++
        (listed [] ",".toList (fun c => (columnDefinition c).toList) columns ++
          behindDefinitions columns)))) := by
  have helements : (tableElements columns).toList ++ ");".toList =
      listed [] ",".toList (fun c => (columnDefinition c).toList) columns ++
        behindDefinitions columns := by
    have hreferences : (columns.filterMap fun c => c.foreign.map (foreignKeyClause c.name)) =
        (foreignKeys columns).map fun r => foreignKeyClause r.1 r.2 := by
      rw [foreignKeys, List.map_filterMap]
      simp only [Option.map_map]
      rfl
    cases columns with
    | nil => rfl
    | cons c cs =>
      rw [tableElements, hreferences, List.map_cons, List.cons_append, List.cons_append,
        ← List.map_id (List.map _ _ ++ _ ++ _), toList_intercalate_cons]
      simp only [List.flatMap_append, behindDefinitions, behindKeys, ← toList_primaryKeyClause?,
        listed]
      simp [List.flatMap_map]
      rfl
  unfold createTable unlessExists
  simp only [String.toList_append, List.append_assoc]
  rw [helements]
  cases ifNotExists <;> simp

/-- A table is not taken for the words in front of its name, whatever it is called. -/
theorem ne_ifNotExists {table : String} (ht : isWord table.toList = true) (cs more : List Char) :
    table.toList ++ (" (".toList ++ cs) ≠ "IF NOT EXISTS ".toList ++ more := by
  have hopen : Begins [" ("] (" (".toList ++ cs) := .head cs
  have hend : EndsWord (" (".toList ++ cs) := endsWord_cons rfl _
  have hnot : EndsWord (" NOT EXISTS ".toList ++ more) := endsWord_cons rfl _
  have hword : "IF NOT EXISTS ".toList = "IF".toList ++ " NOT EXISTS ".toList := by decide
  intro heq
  rw [hword, List.append_assoc] at heq
  -- the first words of both texts are the same, but not what stands behind them
  have hrest := congrArg word heq
  rw [word_append ht hend, word_append (by decide) hnot, Option.some.injEq,
    Prod.mk.injEq] at hrest
  exact hopen.ne_append (by decide) more hrest.2

theorem optional_primaryKey? {columns : List ColumnDef} (hc : ∀ c ∈ columns, c.Readable) :
    optional primaryKey? (behindDefinitions columns) =
      (keyNames? columns, behindKeys columns) := by
  have hnames : ∀ names ∈ keyNames? columns, ∀ n ∈ names, isWord n.toList = true := by
    intro names hnames n hn
    have hkeys : n ∈ (keyNames? columns).getD [] := by rwa [hnames]
    rw [getD_keyNames?] at hkeys
    obtain ⟨c, hfilter, rfl⟩ := List.mem_map.mp hkeys
    exact (hc c (List.mem_of_mem_filter hfilter)).name
  have hnone : primaryKey? (behindKeys columns) = none := by
    rw [primaryKey?, Reader.symbol_eq_none ((begins_behindKeys columns).ne_append (by decide))]
    rfl
  have hkeys : ∀ names ∈ keyNames? columns,
      primaryKey? (keyText names ++ behindKeys columns) = some (names, behindKeys columns) :=
    fun names hmem => primaryKey?_append (hnames names hmem) _
  have hread := Reader.optional_append hkeys hnone
  rwa [Option.map_id'] at hread

theorem many_reference? {columns : List ColumnDef} (hc : ∀ c ∈ columns, c.Readable) :
    many reference? (behindKeys columns) =
      (columns.filterMap ColumnDef.reference, ");".toList) := by
  have hvalue : (foreignKeys columns).map (fun r => ColumnDef.referenceTo r.1 r.2) =
      columns.filterMap ColumnDef.reference := by
    rw [foreignKeys, List.map_filterMap]
    simp only [Option.map_map]
    rfl
  have hend : Begins [");"] ");".toList := ⟨");", List.mem_singleton_self _, List.prefix_rfl⟩
  have hnone : reference? ");".toList = none := by
    rw [reference?, Reader.symbol_eq_none (hend.ne_append (by decide))]
    rfl
  rw [← hvalue]
  have hnext : ∀ (r : String × ForeignKey) (more : List Char),
      EndsPart (referenceText r ++ more) := by
    intro r more
    rw [referenceText, List.append_assoc]
    exact .head _
  refine Reader.many_flatMap hnext (hend.mono (by decide)) hnone (fun r _ => ?_)
    fun r hr more hmore => ?_
  · simp [referenceText]
  · obtain ⟨c, hmem, hforeign⟩ := List.mem_filterMap.mp hr
    obtain ⟨f, hf, rfl⟩ := Option.map_eq_some_iff.mp hforeign
    have h := hc c hmem
    exact reference?_append h.name (h.table f hf) (h.column f hf) (h.actions f hf) hmore

theorem separated_columnDefinition? {columns : List ColumnDef}
    (hc : ∀ c ∈ columns, c.Readable) :
    separated ",".toList columnDefinition?
      (listed [] ",".toList (fun c => (columnDefinition c).toList) columns ++
        behindDefinitions columns) =
      (columns.map ColumnDef.definition, behindDefinitions columns) :=
  have hcomma : ∀ more, EndsPart (",".toList ++ more) := fun more => .head more
  have hread : ∀ c ∈ columns, ∀ more, EndsPart more →
      columnDefinition? ((columnDefinition c).toList ++ more) = some (c.definition, more) :=
    fun c hmem _ => columnDefinition?_append (hc c hmem)
  Reader.separated_listed (by decide) hcomma (endsPart_behindDefinitions columns)
    (columnDefinition?_behindDefinitions columns) (fun _ => columnDefinition?_behindComma) hread

/-- **A declaration is read back** in the order of its text. -/
theorem readTable_eq {table : String} {columns : List ColumnDef} (ht : isWord table.toList = true)
    (hc : ∀ c ∈ columns, c.Readable) (ifNotExists : Bool) :
    readTable (createTable table columns ifNotExists) =
      some ⟨table, ifNotExists, columns.map ColumnDef.definition, keyNames? columns,
        columns.filterMap ColumnDef.reference⟩ := by
  have hopen : ∀ cs, EndsWord (" (".toList ++ cs) := fun _ => endsWord_cons rfl _
  have hend : symbol ");".toList ");".toList = some ((), []) :=
    Reader.symbol_eq_some_iff.mpr (List.append_nil _).symm
  rw [readTable, toList_createTable]
  simp only [Reader.symbol_append, Reader.flag_append ifNotExists (ne_ifNotExists ht _),
    anyWord_append ht (hopen _), separated_columnDefinition? hc, optional_primaryKey? hc,
    many_reference? hc, hend, Option.bind_eq_bind, Option.bind_some, if_true, Option.pure_def]

/-! ## What is told of each column -/

/-- A column is listed among the keys exactly if it is one, provided that no other column has its
name. -/
theorem contains_keyNames? {columns : List ColumnDef} {c : ColumnDef} (hmem : c ∈ columns)
    (hnames : (columns.map (·.name)).Nodup) :
    ((keyNames? columns).getD []).contains c.name = c.options.primaryKey := by
  rw [getD_keyNames?, Bool.eq_iff_iff, List.contains_iff_mem]
  constructor
  · intro h
    obtain ⟨d, hd, hname⟩ := List.mem_map.mp h
    obtain ⟨hd, hkey⟩ := List.mem_filter.mp hd
    rwa [← List.inj_on_of_nodup_map hnames hd hmem hname]
  · intro h
    exact List.mem_map.mpr ⟨c, List.mem_filter.mpr ⟨hmem, h⟩, rfl⟩

theorem column_of_reference {c : ColumnDef} {r : Reference} (h : c.reference = some r) :
    r.column = c.name := by
  obtain ⟨f, -, rfl⟩ := Option.map_eq_some_iff.mp h
  rfl

/-- A column's reference is found by its name, provided that no other column has it. -/
theorem find?_reference {columns : List ColumnDef} {c : ColumnDef} (hmem : c ∈ columns)
    (hnames : (columns.map (·.name)).Nodup) :
    (columns.filterMap ColumnDef.reference).find? (·.column == c.name) = c.reference := by
  have hown : ∀ r ∈ columns.filterMap ColumnDef.reference, r.column = c.name →
      c.reference = some r := by
    intro r hr hname
    obtain ⟨d, hd, href⟩ := List.mem_filterMap.mp hr
    rw [column_of_reference href] at hname
    rwa [← List.inj_on_of_nodup_map hnames hd hmem hname]
  cases hfind : (columns.filterMap ColumnDef.reference).find? (·.column == c.name) with
  | some r =>
    have hname := List.find?_some hfind
    exact (hown r (List.mem_of_find?_eq_some hfind) (beq_iff_eq.mp hname)).symm
  | none =>
    cases href : c.reference with
    | none => rfl
    | some r =>
      have hr := List.find?_eq_none.mp hfind r (List.mem_filterMap.mpr ⟨c, hmem, href⟩)
      exact absurd (beq_iff_eq.mpr (column_of_reference href)) hr

/-- **A declaration tells the table and each of its columns**: its name and modifiers, whether it
is a key, and what it refers to.  The keys stand in one clause behind all definitions, and the
references behind that, each in the order of the columns. -/
theorem readTable_createTable {table : String} {columns : List ColumnDef} (ifNotExists : Bool)
    (ht : isWord table.toList = true) (hc : ∀ c ∈ columns, c.Readable)
    (hnames : (columns.map (·.name)).Nodup) :
    ∃ text, readTable (createTable table columns ifNotExists) = some text ∧
      text.name = table ∧ text.ifNotExists = ifNotExists ∧
      text.definitions = columns.map ColumnDef.definition ∧
      text.primaryKey = keyNames? columns ∧
      text.references = columns.filterMap ColumnDef.reference ∧
      text.columns = columns.map ColumnDef.told := by
  refine ⟨_, readTable_eq ht hc ifNotExists, rfl, rfl, rfl, rfl, rfl, ?_⟩
  rw [TableText.columns, List.map_map]
  refine List.map_congr_left fun c hmem => ?_
  simp only [Function.comp_apply, ColumnDef.definition, contains_keyNames? hmem hnames,
    find?_reference hmem hnames, ColumnDef.told]

/-- Columns that are called like the words of the key clauses, and a table that is called like the
word in front of its name, are told from those words. -/
theorem readTable_createTable_keywords :
    let owner : ColumnDef := (ColumnDef.ofType "PRIMARY" .integer).primaryKey.references
      ⟨"users", "KEY", ["ON DELETE CASCADE", "ON UPDATE SET NULL"]⟩
    let label : ColumnDef :=
      (((ColumnDef.ofType "FOREIGN" .text).primaryKey.unique).notNull).withDefault (.expr "'a b'")
    let score : ColumnDef := (ColumnDef.ofType "KEY" .real).withDefault (.integer (-1))
    createTable "IF" [owner, label, score] true =
        "CREATE TABLE IF NOT EXISTS IF (PRIMARY INTEGER," ++
        "FOREIGN TEXT UNIQUE NOT NULL DEFAULT 'a b',KEY REAL DEFAULT -1," ++
        "PRIMARY KEY (PRIMARY,FOREIGN),FOREIGN KEY (PRIMARY) REFERENCES users (KEY) " ++
        "ON DELETE CASCADE ON UPDATE SET NULL);" ∧
      ∃ text, readTable (createTable "IF" [owner, label, score] true) = some text ∧
        text.name = "IF" ∧ text.ifNotExists = true ∧
        text.primaryKey = some ["PRIMARY", "FOREIGN"] ∧
        text.columns = [
          ⟨⟨"PRIMARY", .integer, false, false, none⟩, true,
            some ⟨"PRIMARY", "users", "KEY", "ON DELETE CASCADE ON UPDATE SET NULL"⟩⟩,
          ⟨⟨"FOREIGN", .text, true, true, some "'a b'"⟩, true, none⟩,
          ⟨⟨"KEY", .real, false, false, some "-1"⟩, false, none⟩] := by
  intro owner label score
  have howner : owner.Readable := ⟨by decide, by decide, by decide, by decide, by decide⟩
  have hlabel : label.Readable := ⟨by decide, by decide, by decide, by decide, by decide⟩
  have hscore : score.Readable := ⟨by decide, by decide, by decide, by decide, by decide⟩
  have hreadable : ∀ c ∈ [owner, label, score], c.Readable := by
    simp only [List.forall_mem_cons]
    exact ⟨howner, hlabel, hscore, by simp⟩
  have htable : isWord "IF".toList = true := by decide
  obtain ⟨text, hread, hname, hflag, -, hkeys, -, hcolumns⟩ :=
    readTable_createTable true htable hreadable (by decide)
  refine ⟨by decide +kernel, text, hread, hname, hflag, hkeys.trans (by decide), ?_⟩
  exact hcolumns.trans (by decide)

end Sql

end ParamSql
