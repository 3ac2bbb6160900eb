import Mathlib.Algebra.Group.Int.Defs
import ParamSql.Document.Schema
import ParamSql.Document.Statement
import ParamSql.Proofs.Document.Represents
import ParamSql.Proofs.Tree

/-!
# Decoding undoes encoding

What a value is encoded as represents it: the node is read as the same value, wherever it comes
from.  This goes type by type along the fields of the records, and up the tree for predicates.

A default that is a float must be finite, since a document has no other floats.

## Main definitions

* `Statement.FiniteDefaults`, `Schema.FiniteDefaults`: no default is infinite or no number

## Main results

* `Predicate.represents`: predicates of any depth
* `Statement.represents`, `Schema.represents`: statements of all kinds, and schemas
-/

namespace ParamSql

open Document (Node Decoder Source Represents Written Field Values listMember textMember)

/-! ## Members -/

namespace Document

variable {α : Type} {key : String} {aliases : List String} {d : Decoder α} {n : Node} {a : α}
  {fs : List Field} {vs : Values fs} {ms : List (String × Node)}

/-- A value that may be missing is written as a member when it is there. -/
theorem Written.optionMember {encode : α → Node} {o : Option α}
    (h : ∀ a ∈ o, Represents d (encode a) a ∧ encode a ≠ .null) (tail : Written fs vs ms) :
    Written (.optional key d.option none aliases :: fs) (o, vs)
      (optionMember key encode o ++ ms) := by
  cases o with
  | none => exact .missing rfl tail
  | some a =>
    obtain ⟨ha, hn⟩ := h a rfl
    exact .there (.some ha hn) tail

theorem Written.textMember (s : Option String) (tail : Written fs vs ms) :
    Written (.optional key Decoder.text.option none aliases :: fs) (s, vs)
      (textMember key s ++ ms) :=
  .optionMember (fun s _ => ⟨.text s, nofun⟩) tail

/-- A list is written as a member when it has items. -/
theorem Written.listMember {d : Decoder (List α)} {encode : α → Node} {as : List α}
    (h : as ≠ [] → Represents d (.list (as.map encode)) as) (tail : Written fs vs ms) :
    Written (.optional key d [] aliases :: fs) (as, vs)
      (listMember key (as.map encode) ++ ms) := by
  cases as with
  | nil => exact .missing rfl tail
  | cons a as => exact .there (h nofun) tail

/-- A value or `null` is read as an option. -/
theorem Represents.orNull {encode : α → Node} {o : Option α}
    (h : ∀ a ∈ o, Represents d (encode a) a ∧ encode a ≠ .null) :
    Represents d.option (orNull encode o) o := by
  cases o with
  | none => exact .none
  | some a =>
    obtain ⟨ha, hn⟩ := h a rfl
    exact ha.some hn

/-- A record of written members represents what its fields describe. -/
theorem Represents.ofWritten {ofValues : Values fs → α} (hfs : Field.Distinct fs)
    (h : Written fs vs ms) (hn : n = .record ms) (ha : ofValues vs = a) :
    Represents (fun src n => (Decoder.record fs src n).map ofValues) n a := by
  subst hn ha
  exact (Represents.record hfs h).map ofValues

theorem Node.depth_le_depthOfAll {n : Node} {ns : List Node} (h : n ∈ ns) :
    n.depth ≤ Node.depthOfAll ns := by
  induction ns with
  | nil => cases h
  | cons m ns ih =>
    rw [Node.depthOfAll]
    rcases List.mem_cons.mp h with rfl | h
    · exact Nat.le_max_left _ _
    · exact Nat.le_trans (ih h) (Nat.le_max_right _ _)

theorem Node.readable_of_mem {m : String × Node} {ms : List (String × Node)}
    (h : (Node.record ms).readable = true) (hm : m ∈ ms) : m.2.readable = true := by
  induction ms with
  | nil => cases hm
  | cons m' ms ih =>
    rw [Node.readable, Node.membersReadable, Bool.and_eq_true] at h
    rcases List.mem_cons.mp hm with rfl | hm
    · exact h.1
    · exact ih h.2 hm

theorem Node.depth_le_depthOfMembers {m : String × Node} {ms : List (String × Node)}
    (h : m ∈ ms) : m.2.depth ≤ Node.depthOfMembers ms := by
  induction ms with
  | nil => cases h
  | cons m' ms ih =>
    rw [Node.depthOfMembers]
    rcases List.mem_cons.mp h with rfl | h
    · exact Nat.le_max_left _ _
    · exact Nat.le_trans (ih h) (Nat.le_max_right _ _)

end Document

/-! ## Predicates -/

theorem Comparison.represents (c : Comparison) : Represents Comparison.decoder c.encode c := by
  refine Represents.refine (.text c.symbol) ?_
  simp only [Comparison.ofSymbol?_symbol]

namespace Predicate

theorem encodeAll_eq_map (ps : List Predicate) : encodeAll ps = ps.map encode := by
  induction ps with
  | nil => rfl
  | cons p ps ih => rw [encodeAll, ih, List.map_cons]

theorem encode_mk (leaf : Leaf) (ands ors : List Predicate) :
    encode ⟨leaf, ands, ors⟩ =
      .record (("column", .text leaf.column) :: (textMember "table" leaf.table ++
        ("op", leaf.op.encode) :: ("lower", .bool leaf.lower) :: ("upper", .bool leaf.upper) ::
        (listMember "and" (ands.map encode) ++ (listMember "or" (ors.map encode) ++ [])))) := by
  rw [encode, encodeAll_eq_map, encodeAll_eq_map]
  simp only [List.append_assoc, List.cons_append, List.nil_append, List.append_nil]

/-! ### One node or a list of nodes -/

/-- A list of nodes is not read as one node: the first node stands where a column is expected. -/
theorem exists_error_of_list (depth : Nat) (src : Source) (p : Predicate) (ns : List Node) :
    ∃ e, decoderAt depth src (.list (p.encode :: ns)) = .error e := by
  obtain ⟨leaf, ands, ors⟩ := p
  cases depth with
  | zero => exact ⟨_, rfl⟩
  | succ depth => exact ⟨_, rfl⟩

theorem represents_oneOrManyOf {depth : Nat} {ps : List Predicate} (hps : ps ≠ [])
    (h : ∀ p ∈ ps, Represents (decoderAt depth) p.encode p) :
    Represents (oneOrManyOf (decoderAt depth)) (.list (ps.map encode)) ps := by
  have hlist := Represents.list h
  refine Represents.held ⟨hlist.readable, fun src => ?_⟩
  cases ps with
  | nil => exact absurd rfl hps
  | cons p ps =>
    obtain ⟨e, he⟩ := exists_error_of_list depth src p (ps.map encode)
    have hmany := hlist.decodes src
    rw [List.map_cons] at hmany ⊢
    simp only [he, hmany]

/-! ### Trees -/

/-- A node of a list is nested no more deeply than the members among which the list is. -/
theorem depth_le_of_mem (key : String) {ps : List Predicate} {q : Predicate}
    {ms : List (String × Node)} (hms : (key, .list (ps.map encode)) ∈ ms) (hq : q ∈ ps) :
    q.encode.depth ≤ Node.depthOfMembers ms := by
  have hlist := Document.Node.depth_le_depthOfMembers hms
  have hmem : q.encode ∈ ps.map encode := List.mem_map_of_mem hq
  have hitem := Document.Node.depth_le_depthOfAll hmem
  rw [Node.depth] at hlist
  omega

theorem represents_decoderAt (p : Predicate) (depth : Nat) (hdepth : p.encode.depth ≤ depth) :
    Represents (decoderAt depth) p.encode p := by
  induction p using induction generalizing depth with
  | node leaf ands ors iha iho =>
    rw [encode_mk] at hdepth ⊢
    obtain ⟨depth, rfl⟩ := Nat.exists_eq_add_one_of_ne_zero (Nat.ne_zero_of_lt hdepth)
    have hmembers := Nat.le_of_succ_le_succ hdepth
    have hands : ands ≠ [] →
        Represents (oneOrManyOf (decoderAt depth)) (.list (ands.map encode)) ands := by
      refine fun hne => represents_oneOrManyOf hne fun q hq => iha q hq depth ?_
      exact Nat.le_trans (depth_le_of_mem "and" (by simp [listMember, hne]) hq) hmembers
    have hors : ors ≠ [] →
        Represents (oneOrManyOf (decoderAt depth)) (.list (ors.map encode)) ors := by
      refine fun hne => represents_oneOrManyOf hne fun q hq => iho q hq depth ?_
      exact Nat.le_trans (depth_le_of_mem "or" (by simp [listMember, hne]) hq) hmembers
    have hdistinct : Field.Distinct (fields (oneOrManyOf (decoderAt depth))) :=
      of_decide_eq_true rfl
    have hwritten : Written (fields (oneOrManyOf (decoderAt depth)))
        (leaf.column, leaf.table, leaf.op, leaf.lower, leaf.upper, ands, ors, ()) _ :=
      .there (.text _) (.textMember _ (.there leaf.op.represents (.there (.bool _)
        (.there (.bool _) (.listMember hands (.listMember hors .nil))))))
    exact .ofWritten hdistinct hwritten rfl rfl

/-- **Predicates of any depth** are read back. -/
theorem represents (p : Predicate) : Represents decoder p.encode p where
  readable := (p.represents_decoderAt _ (Nat.le_refl _)).readable
  decodes := (p.represents_decoderAt _ (Nat.le_refl _)).decodes

theorem encode_ne_null (p : Predicate) : p.encode ≠ .null := by
  obtain ⟨leaf, ands, ors⟩ := p
  nofun

/-- A filter that may be missing is `null` when it is. -/
theorem represents_encodeFilter (filter : Option Predicate) :
    Represents decoder.option (Document.encodeFilter filter) filter :=
  .orNull fun p _ => ⟨p.represents, p.encode_ne_null⟩

end Predicate

/-! ## Columns -/

theorem ColumnRef.represents (c : ColumnRef) : Represents decoder c.encode c := by
  have hwritten : Written fields (c.column, c.table, c.label, ()) _ :=
    .there (.text _) (.textMember _ (.textMember _ .nil))
  refine .ofWritten (by decide) hwritten ?_ rfl
  simp only [encode, List.append_assoc, List.append_nil]
  rfl

theorem SelectColumn.represents (c : SelectColumn) : Represents decoder c.encode c := by
  refine Represents.held ?_
  cases c with
  | raw expr => exact ⟨rfl, fun _ => rfl⟩
  | ref c =>
    refine ⟨c.represents.readable, fun src => ?_⟩
    have htext : Decoder.text src c.encode = .error .invalidType := rfl
    simp only [encode, htext, c.represents.decodes]

/-- A default that a document can hold: a float must be finite. -/
def DefaultValue.Finite : DefaultValue → Prop
  | integer _ => True
  | real x => x.isFinite = true
  | expr _ => True

theorem Decimal.fitsSigned_iff {n : Int} :
    fitsSigned 64 n = true ↔ -2 ^ 63 ≤ n ∧ n < 2 ^ 63 := by
  rw [fitsSigned, Bool.and_eq_true, decide_eq_true_eq, decide_eq_true_eq]
  rfl

namespace DefaultValue

theorem represents {d : DefaultValue} (h : d.Finite) : Represents decoder d.encode d := by
  refine Represents.held ?_
  cases d with
  | integer n =>
    refine ⟨rfl, fun src => ?_⟩
    have hfits : Decimal.fitsSigned 64 n.toInt = true :=
      Decimal.fitsSigned_iff.mpr ⟨n.le_toInt, n.toInt_lt⟩
    simp only [encode, hfits, if_true, Int64.ofInt_toInt]
  | real x =>
    have hx : x.isFinite = true := h
    simp only [encode, hx, if_true]
    exact ⟨rfl, fun _ => rfl⟩
  | expr sql => exact ⟨rfl, fun _ => rfl⟩

theorem encode_ne_null {d : DefaultValue} (h : d.Finite) : d.encode ≠ .null := by
  cases d with
  | integer n => nofun
  | real x =>
    have hx : x.isFinite = true := h
    simp only [encode, hx, if_true]
    nofun
  | expr sql => nofun

end DefaultValue

theorem ColumnOptions.represents {o : ColumnOptions} (h : ∀ d ∈ o.default, d.Finite) :
    Represents decoder o.encode o := by
  have hdefault : ∀ d ∈ o.default, Represents DefaultValue.decoder d.encode d ∧ d.encode ≠ .null :=
    fun d hd => ⟨DefaultValue.represents (h d hd), DefaultValue.encode_ne_null (h d hd)⟩
  have hwritten : Written fields (o.default, o.notNull, o.primaryKey, o.unique, ()) _ :=
    .optionMember hdefault (.there (.bool _) (.there (.bool _) (.there (.bool _) .nil)))
  exact .ofWritten (by decide) hwritten rfl rfl

theorem ForeignKey.represents (f : ForeignKey) : Represents decoder f.encode f := by
  have hoptions : f.options ≠ [] → Represents Decoder.text.list (.list (f.options.map .text))
      f.options := fun _ => Represents.list fun s _ => .text s
  have hwritten : Written fields (f.table, f.column, f.options, ()) _ :=
    .there (.text _) (.there (.text _) (.listMember hoptions .nil))
  refine .ofWritten (by decide) hwritten ?_ rfl
  simp only [encode, List.append_nil]
  rfl

theorem ColumnType.represents (t : ColumnType) : Represents decoder t.encode t :=
  .variant t.ofWord?_word

/-- A column whose default a document can hold. -/
def ColumnDef.FiniteDefault (c : ColumnDef) : Prop := ∀ d ∈ c.options.default, d.Finite

theorem ColumnDef.represents {c : ColumnDef} (h : c.FiniteDefault) :
    Represents decoder c.encode c := by
  have hforeign : ∀ f ∈ c.foreign, Represents ForeignKey.decoder f.encode f ∧ f.encode ≠ .null :=
    fun f _ => ⟨f.represents, nofun⟩
  have hwritten : Written fields (c.name, c.type, c.options, c.foreign, ()) _ :=
    .there (.text _) (.there c.type.represents (.there (ColumnOptions.represents h)
      (.optionMember hforeign .nil)))
  refine .ofWritten (by decide) hwritten ?_ rfl
  simp only [encode, List.append_nil]
  rfl

theorem Assignment.represents (a : Assignment) : Represents decoder a.encode a := by
  refine Represents.held ?_
  cases a with
  | set c => exact ⟨rfl, fun _ => rfl⟩
  | adjust c op =>
    have hwritten : Written fields (c, op.map (·.word), ()) _ :=
      .there (.text _) (.textMember _ .nil)
    rw [List.append_nil] at hwritten
    refine ⟨hwritten.readable, fun src => ?_⟩
    have hword : adjustmentOf (op.map (·.word)) = .ok op := by
      cases op with
      | none => rfl
      | some op => simp only [Option.map_some, adjustmentOf, Adjustment.ofWord?_word]
    have hkeyed : Document.keyed fields src
        ([("column", .text c)] ++ textMember "op" (op.map (·.word))) =
          .ok (c, op.map (·.word), ()) := Document.keyed_eq_ok (by decide) hwritten
    simp only [encode, hkeyed, ofValues, hword]
    rfl

/-! ## Selections -/

theorem InnerJoin.represents (j : InnerJoin) : Represents decoder j.encode j := by
  have hwritten : Written fields (j.thisColumn, j.otherTable, j.otherColumn, ()) _ :=
    .there (.text _) (.there (.text _) (.there (.text _) .nil))
  exact .ofWritten (by decide) hwritten rfl rfl

theorem OrderTerm.represents (t : OrderTerm) : Represents decoder t.encode t := by
  have hwritten : Written fields (t.column, t.table, t.ascending, ()) _ :=
    .there (.text _) (.textMember _ (.there (.bool _) .nil))
  refine .ofWritten (by decide) hwritten ?_ rfl
  simp only [encode, List.append_assoc]
  rfl

namespace SelectOptions

theorem written_numberMember {key : String} {aliases : List String} {fs : List Field}
    {vs : Values fs} {ms : List (String × Node)} (n : Option UInt64) (tail : Written fs vs ms) :
    Written (.optional key Decoder.uint64.option none aliases :: fs) (n, vs)
      (numberMember key n ++ ms) :=
  .optionMember (fun n _ => ⟨.uint64 n, nofun⟩) tail

theorem represents (o : SelectOptions) : Represents decoder o.encode o := by
  have hjoins : o.innerJoins ≠ [] → Represents InnerJoin.decoder.list
      (.list (o.innerJoins.map (·.encode))) o.innerJoins :=
    fun _ => Represents.list fun j _ => j.represents
  have hfilter : ∀ p ∈ o.filter, Represents Predicate.decoder p.encode p ∧ p.encode ≠ .null :=
    fun p _ => ⟨p.represents, p.encode_ne_null⟩
  have horder : o.orderBy ≠ [] → Represents OrderTerm.decoder.list
      (.list (o.orderBy.map (·.encode))) o.orderBy :=
    fun _ => Represents.list fun t _ => t.represents
  have hwritten : Written fields
      (o.innerJoins, o.filter, o.orderBy, o.distinct, o.limit, o.offset, ()) _ :=
    .listMember hjoins (.optionMember hfilter (.listMember horder (.there (.bool _)
      (written_numberMember _ (written_numberMember _ .nil)))))
  refine .ofWritten (by decide) hwritten ?_ rfl
  simp only [encode, List.append_assoc, List.append_nil]
  rfl

end SelectOptions

/-! ## Alterations -/

theorem RenameColumn.represents (r : RenameColumn) : Represents decoder r.encode r := by
  have hwritten : Written fields (r.columnName, r.newColumnName, ()) _ :=
    .there (.text _) (.there (.text _) .nil)
  exact .ofWritten (by decide) hwritten rfl rfl

theorem AlterOptions.represents {o : AlterOptions} (h : ∀ c ∈ o.addColumn, c.FiniteDefault) :
    Represents decoder o.encode o := by
  have hadd : ∀ c ∈ o.addColumn, Represents ColumnDef.decoder c.encode c ∧ c.encode ≠ .null :=
    fun c hc => ⟨ColumnDef.represents (h c hc), nofun⟩
  have hrename : ∀ r ∈ o.renameColumn,
      Represents RenameColumn.decoder r.encode r ∧ r.encode ≠ .null :=
    fun r _ => ⟨r.represents, nofun⟩
  have hwritten : Written fields
      (o.addColumn, o.dropColumnName, o.newTableName, o.renameColumn, ()) _ :=
    .optionMember hadd (.textMember _ (.textMember _ (.optionMember hrename .nil)))
  refine .ofWritten (by decide) hwritten ?_ rfl
  simp only [encode, List.append_assoc, List.append_nil]

namespace Alteration

/-- An alteration that adds no column whose default a document cannot hold. -/
def FiniteDefault : Alteration → Prop
  | addColumn new => new.column.FiniteDefault
  | dropColumn _ => True
  | renameTable _ => True
  | renameColumn _ _ => True

/-- The loose form of an alteration is made strict again. -/
theorem toAlteration_toOptions (a : Alteration) : a.toOptions.toAlteration = .ok a := by
  cases a with
  | addColumn new =>
    obtain ⟨column, hkey, hunique⟩ := new
    simp [toOptions, AlterOptions.toAlteration, AlterOptions.populated, addColumn?, hkey, hunique]
  | dropColumn name => rfl
  | renameTable name => rfl
  | renameColumn source target => rfl

theorem represents {a : Alteration} (h : a.FiniteDefault) : Represents decoder a.encode a := by
  refine Represents.refine (AlterOptions.represents ?_) a.toAlteration_toOptions
  cases a with
  | addColumn new =>
    rintro c ⟨⟩
    exact h
  | dropColumn name => rintro c ⟨⟩
  | renameTable name => rintro c ⟨⟩
  | renameColumn source target => rintro c ⟨⟩

end Alteration

/-! ## Statements -/

namespace Statement

/-- A statement whose defaults a document can hold. -/
def FiniteDefaults : Statement → Prop
  | createTable _ columns _ => ∀ c ∈ columns, c.FiniteDefault
  | alterTable _ a => a.FiniteDefault
  | _ => True

/-- The members besides the kind are read by the kind. -/
theorem represents_body {s : Statement} (h : s.FiniteDefaults) :
    Represents (bodyDecoder s.kind) (.record s.body) s := by
  cases s with
  | select table columns options =>
    have hcolumns := Represents.list fun c (_ : c ∈ columns) => c.represents
    exact .ofWritten (by decide) (.there (.text table) (.there hcolumns
      (.there options.represents .nil))) rfl rfl
  | insert table columns =>
    have hcolumns := Represents.list fun c (_ : c ∈ columns) => Represents.text c
    exact .ofWritten (by decide) (.there (.text table) (.there hcolumns .nil)) rfl rfl
  | update table columns filter =>
    have hcolumns := Represents.list fun c (_ : c ∈ columns) => c.represents
    exact .ofWritten (by decide) (.there (.text table) (.there hcolumns
      (.there (Predicate.represents_encodeFilter filter) .nil))) rfl rfl
  | delete table filter =>
    exact .ofWritten (by decide) (.there (.text table)
      (.there (Predicate.represents_encodeFilter filter) .nil)) rfl rfl
  | «exists» table filter =>
    exact .ofWritten (by decide) (.there (.text table)
      (.there (Predicate.represents_encodeFilter filter) .nil)) rfl rfl
  | createTable table columns flag =>
    have hcolumns := Represents.list fun c (hc : c ∈ columns) => ColumnDef.represents (h c hc)
    exact .ofWritten (by decide) (.there (.text table) (.there hcolumns
      (.there (.bool flag) .nil))) rfl rfl
  | alterTable table alter =>
    exact .ofWritten (by decide) (.there (.text table) (.there (Alteration.represents h) .nil))
      rfl rfl
  | dropTable table flag =>
    exact .ofWritten (by decide) (.there (.text table) (.there (.bool flag) .nil)) rfl rfl
  | createView view table columns options flag =>
    have hcolumns := Represents.list fun c (_ : c ∈ columns) => c.represents
    exact .ofWritten (by decide) (.there (.text view) (.there (.text table) (.there hcolumns
      (.there options.represents (.there (.bool flag) .nil))))) rfl rfl
  | dropView view flag =>
    exact .ofWritten (by decide) (.there (.text view) (.there (.bool flag) .nil)) rfl rfl
  | createIndex index table columns flag filter =>
    have hcolumns := Represents.list fun c (_ : c ∈ columns) => Represents.text c
    exact .ofWritten (by decide) (.there (.text index) (.there (.text table) (.there hcolumns
      (.there (.bool flag) (.there (Predicate.represents_encodeFilter filter) .nil))))) rfl rfl
  | dropIndex index flag =>
    exact .ofWritten (by decide) (.there (.text index) (.there (.bool flag) .nil)) rfl rfl

/-- A member is the kind, or is held back. -/
theorem splitKind_cons {src : Source} {key : String} {n : Node} (hn : ∀ m, n ≠ .unlabelled m)
    (ms : List (String × Node)) (kind : Option Kind) :
    splitKind src ((key, n) :: ms) kind =
      if key = kindKey then
        match kind with
        | some _ => .error (.duplicateField kindKey)
        | none =>
          match Kind.decoder src n with
          | .error e => .error e
          | .ok k => splitKind src ms (some k)
      else if src = .stream && !n.readable then .error .malformed
      else (splitKind src ms kind).map fun (k, body) => (k, (key, n) :: body) := by
  cases n with
  | unlabelled m => exact absurd rfl (hn m)
  | _ => rfl

/-- The members behind the kind are held back as they are. -/
theorem splitKind_some {src : Source} {k : Kind} :
    ∀ {ms : List (String × Node)}, (∀ m ∈ ms, m.1 ≠ kindKey ∧ m.2.readable = true) →
      splitKind src ms (some k) = .ok (some k, ms)
  | [], _ => rfl
  | (key, n) :: ms, h => by
    obtain ⟨⟨hkey, hn⟩, hms⟩ := List.forall_mem_cons.mp h
    have hsplit : splitKind src ms (some k) = .ok (some k, ms) := splitKind_some hms
    have hlabel : ∀ m, n ≠ .unlabelled m := by
      rintro m rfl
      cases hn
    rw [splitKind_cons hlabel, if_neg hkey, hsplit]
    simp [hn, Except.map]

theorem kindKey_not_mem_body (s : Statement) : kindKey ∉ s.body.map (·.1) := by
  cases s <;> simp [body, kindKey]

/-- **Statements of all kinds** are read back. -/
theorem represents {s : Statement} (h : s.FiniteDefaults) : Represents decoder s.encode s := by
  have hbody := represents_body h
  refine ⟨hbody.readable, fun src => ?_⟩
  have hmembers : ∀ m ∈ s.body, m.1 ≠ kindKey ∧ m.2.readable = true := by
    intro m hm
    refine ⟨fun hkey => s.kindKey_not_mem_body (hkey ▸ List.mem_map_of_mem hm), ?_⟩
    exact Document.Node.readable_of_mem hbody.readable hm
  have hkind : Kind.decoder src (.text s.kind.word) = .ok s.kind := by
    simp only [Kind.decoder, Kind.ofWord?_word]
  have hsplit : splitKind src ((kindKey, .text s.kind.word) :: s.body) none =
      .ok (some s.kind, s.body) := by
    have hlabel : ∀ m, Node.text s.kind.word ≠ .unlabelled m := nofun
    rw [splitKind_cons hlabel, if_pos rfl]
    simp only [hkind, splitKind_some hmembers]
  rw [encode, decoder, hsplit]
  exact hbody.decodes .held

end Statement

/-! ## Schemas -/

theorem Table.represents {t : Table} (h : ∀ c ∈ t.columns, c.FiniteDefault) :
    Represents decoder t.encode t := by
  have hcolumns := Represents.list fun c (hc : c ∈ t.columns) => ColumnDef.represents (h c hc)
  exact .ofWritten (by decide) (.there (.text t.name) (.there hcolumns .nil)) rfl rfl

theorem View.represents (v : View) : Represents decoder v.encode v := by
  have hcolumns := Represents.list fun c (_ : c ∈ v.columns) => c.represents
  have hoptions : Represents SelectOptions.decoder.option
      (Document.orNull SelectOptions.encode v.options) v.options :=
    .orNull fun o _ => ⟨o.represents, nofun⟩
  exact .ofWritten (by decide) (.there (.text v.name) (.there (.text v.table) (.there hcolumns
    (.there hoptions .nil)))) rfl rfl

theorem Index.represents (i : Index) : Represents decoder i.encode i := by
  have hcolumns := Represents.list fun s (_ : s ∈ i.columns) => Represents.text s
  exact .ofWritten (by decide) (.there (.text i.name) (.there (.text i.table) (.there hcolumns
    (.there (Predicate.represents_encodeFilter i.filter) .nil)))) rfl rfl

namespace Schema

/-- A schema whose defaults a document can hold. -/
def FiniteDefaults (s : Schema) : Prop := ∀ t ∈ s.tables, ∀ c ∈ t.columns, c.FiniteDefault

/-- **Schemas** are read back. -/
theorem represents {s : Schema} (h : s.FiniteDefaults) : Represents decoder s.encode s := by
  have htables := Represents.list fun t (ht : t ∈ s.tables) => Table.represents (h t ht)
  have hviews := Represents.list fun v (_ : v ∈ s.views) => v.represents
  have hindexes := Represents.list fun i (_ : i ∈ s.indexes) => i.represents
  exact .ofWritten (by decide) (.there htables (.there hviews (.there hindexes .nil))) rfl rfl

end Schema

end ParamSql
