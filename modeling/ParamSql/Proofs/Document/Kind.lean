import ParamSql.Proofs.Document.Fields
import ParamSql.Proofs.Document.Filters

/-!
# The kind of a statement as a field

A statement is read in two steps: the kind is found among the members wherever it stands, and the
others are held back and read by the fields of the kind.  What comes of it is a record whose first
field is the kind, and whose other fields are those of the kind.  Only the kind is read from where
the document comes from; the others are read from what was held back.

## Main definitions

* `Statement.kindField`, `Kind.fields`, `Kind.ofValues`: a statement of a kind as a record

## Main results

* `Statement.splitKind_eq_ok_iff`: what is found and what is held back
* `Statement.decoder_record_eq_ok_iff`, `Statement.decoder_list_eq_ok_iff`: when a statement is
  read, by key and by position
-/

namespace ParamSql

open Document (Node Decoder Source Field Values Labelled Draft)

namespace Statement

/-! ## The fields of each kind -/

/-- The field that names the kind. -/
def kindField : Field := .required kindKey Kind.decoder

namespace Kind

/-- The fields of the statements of a kind. -/
def fields : Kind → List Field
  | select => [name "table", .required "columns" SelectColumn.decoder.list, optionsField]
  | insert => [name "table", .required "columns" Decoder.text.list]
  | update => [name "table", .required "columns" Assignment.decoder.list, filterField]
  | delete => [name "table", filterField]
  | .exists => [name "table", filterField]
  | createTable =>
    [name "table", .required "columns" ColumnDef.decoder.list, flag "if_not_exists"]
  | alterTable => [name "table", .required "alter" Alteration.decoder]
  | dropTable => [name "table", flag "if_exists"]
  | createView =>
    [name "view", name "table", .required "columns" SelectColumn.decoder.list, optionsField,
      flag "if_not_exists"]
  | dropView => [name "view", flag "if_exists"]
  | createIndex =>
    [name "index", name "table", .required "columns" Decoder.text.list, flag "if_not_exists",
      filterField]
  | dropIndex => [name "index", flag "if_exists"]

/-- The statement of a kind with the values of its fields. -/
def ofValues : (k : Kind) → Values k.fields → Statement
  | select => fun (table, columns, options, _) => .select table columns options
  | insert => fun (table, columns, _) => .insert table columns
  | update => fun (table, columns, filter, _) => .update table columns filter
  | delete => fun (table, filter, _) => .delete table filter
  | .exists => fun (table, filter, _) => Statement.exists table filter
  | createTable => fun (table, columns, flag, _) => .createTable table columns flag
  | alterTable => fun (table, alter, _) => .alterTable table alter
  | dropTable => fun (table, flag, _) => .dropTable table flag
  | createView => fun (view, table, columns, options, flag, _) =>
    .createView view table columns options flag
  | dropView => fun (view, flag, _) => .dropView view flag
  | createIndex => fun (index, table, columns, flag, filter, _) =>
    .createIndex index table columns flag filter
  | dropIndex => fun (index, flag, _) => .dropIndex index flag

end Kind

/-- What was held back is read as a record of the fields of the kind. -/
theorem bodyDecoder_eq (k : Kind) :
    bodyDecoder k = fun src n => (Decoder.record k.fields src n).map k.ofValues := by
  cases k <;> rfl

/-! ## Finding the kind -/

section Kinds

variable {src : Source} {ms body : List (String × Node)} {kind l : Option Kind} {k : Kind}
  {key : String} {n : Node} {s : Statement}

theorem accepts_kindField : kindField.accepts key = decide (key = kindKey) := by
  rw [kindField, Field.accepts, Field.required]
  by_cases hkey : key = kindKey
  · simp [hkey]
  · simp [hkey, Ne.symm hkey]

/-- Only a text is read as a kind, from every source. -/
theorem Kind.decoder_eq_ok_iff :
    Kind.decoder src n = .ok k ↔ ∃ w, n = .text w ∧ Kind.ofWord? w = some k := by
  cases n with
  | text w =>
    rw [Kind.decoder]
    cases hw : Kind.ofWord? w <;> simp [hw]
  | _ => simp [Kind.decoder]

/-- **The kind is found** among the members as a field is, and the others are held back. -/
theorem splitKind_eq_ok_iff : splitKind src ms kind = .ok (l, body) ↔
    Labelled ms ∧ (∀ m ∈ kindField.rest ms, (src = .stream && !m.2.readable) = false) ∧
      Draft.Fills kindField src kind (kindField.part ms) l ∧ body = kindField.rest ms := by
  induction ms generalizing kind body with
  | nil =>
    constructor
    · rintro ⟨⟩
      exact ⟨List.forall_mem_nil _, List.forall_mem_nil _, rfl, rfl⟩
    · rintro ⟨-, -, hfills, rfl⟩
      cases hfills
      rfl
  | cons m ms ih =>
    obtain ⟨key, n⟩ := m
    by_cases hn : ∃ u, n = .unlabelled u
    · obtain ⟨u, rfl⟩ := hn
      exact iff_of_false (by rintro ⟨⟩) fun h => h.1 _ List.mem_cons_self u rfl
    · rw [not_exists] at hn
      have hlabelled : Labelled ((key, n) :: ms) ↔ Labelled ms :=
        List.forall_mem_cons.trans (and_iff_right hn)
      rw [splitKind_cons hn, hlabelled, Field.part_cons, Field.rest_cons, accepts_kindField]
      by_cases hkey : key = kindKey
      · simp only [hkey, if_true, decide_true]
        cases kind with
        | some k => exact iff_of_false (by rintro ⟨⟩) (by rintro ⟨-, -, ⟨⟨⟩, -⟩, -⟩)
        | none =>
          cases hk : Kind.decoder src n with
          | error e =>
            have hdecode : kindField.decode src n = .error e := hk
            exact iff_of_false (by rintro ⟨⟩) (by simp [Draft.Fills, hdecode])
          | ok k =>
            have hdecode : kindField.decode src n = .ok k := hk
            refine ih.trans (and_congr_right fun _ => and_congr_right fun _ =>
              and_congr_left fun _ => ?_)
            exact Draft.fills_some_iff hdecode
      · simp only [hkey, if_false, decide_false, Bool.false_eq_true, List.forall_mem_cons]
        cases src = .stream && !n.readable with
        | true => exact iff_of_false (by rintro ⟨⟩) (by rintro ⟨-, ⟨⟨⟩, -⟩, -⟩)
        | false =>
          simp only [Bool.false_eq_true, if_false, true_and]
          constructor
          · intro h
            obtain ⟨⟨l, held⟩, hsplit, hresult⟩ := Document.exists_of_map_eq_ok h
            cases hresult
            obtain ⟨hms, hread, hfills, rfl⟩ := ih.mp hsplit
            exact ⟨hms, hread, hfills, rfl⟩
          · rintro ⟨hms, hread, hfills, rfl⟩
            rw [ih.mpr ⟨hms, hread, hfills, rfl⟩]
            rfl

/-- The kind is read from where the document comes from as it is read from what was held back. -/
theorem takes_kindField {src' : Source} {ns : List Node} (h : kindField.Takes src k ns) :
    kindField.Takes src' k ns := by
  refine h.transfer fun n _ k hk => ?_
  obtain ⟨w, rfl, hw⟩ := Kind.decoder_eq_ok_iff.mp hk
  exact Kind.decoder_eq_ok_iff.mpr ⟨w, rfl, hw⟩

/-- The kind is that of the member that names it. -/
theorem eq_of_takes_kindField {k' : Kind} (h : kindField.Takes src k' (kindField.part ms))
    (hk : (kindKey, .text k.word) ∈ ms) : k' = k := by
  have hmem : Node.text k.word ∈ kindField.part ms := by
    refine List.mem_map_of_mem (f := (·.2)) (List.mem_filter.mpr ⟨hk, ?_⟩)
    rw [accepts_kindField, decide_eq_true rfl]
  generalize kindField.part ms = part at h hmem
  cases h with
  | given hread =>
    obtain rfl := List.mem_singleton.mp hmem
    have hk' : Kind.decoder src (.text k.word) = .ok k' := hread
    rw [Kind.decoder, Kind.ofWord?_word] at hk'
    exact (Except.ok.inj hk').symm
  | missing hdefault => cases hdefault

/-- The members are readable if those besides the kind are. -/
theorem readable_iff (h : kindField.Takes src k (kindField.part ms)) :
    (Node.record ms).readable = true ↔ ∀ m ∈ kindField.rest ms, m.2.readable = true := by
  have hkind : ∀ n ∈ kindField.part ms, n.readable = true := by
    intro n hn
    generalize kindField.part ms = part at h hn
    cases h with
    | given hk =>
      obtain ⟨w, rfl, -⟩ := Kind.decoder_eq_ok_iff.mp hk
      rw [List.mem_singleton.mp hn]
      rfl
    | missing hdefault => cases hdefault
  rw [Node.readable, Node.membersReadable_eq_all, List.all_eq_true]
  constructor
  · intro hall m hm
    exact hall m (List.mem_of_mem_filter hm)
  · intro hrest m hm
    by_cases hkey : kindField.accepts m.1 = true
    · exact hkind m.2 (List.mem_map_of_mem (List.mem_filter.mpr ⟨hm, hkey⟩))
    · exact hrest m (List.mem_filter.mpr ⟨hm, by simpa using hkey⟩)

/-- **A statement is read by key** as a record whose first field is the kind and whose others are
those of the kind; of a text, it must be free of faults. -/
theorem decoder_record_eq_ok_iff : decoder src (.record ms) = .ok s ↔
    (src = .stream → (Node.record ms).readable = true) ∧
      ∃ (k : Kind) (vs : Values k.fields),
        Decoder.record (kindField :: k.fields) .held (.record ms) = .ok (k, vs) ∧
          k.ofValues vs = s := by
  have hfaults : ∀ {m : String × Node}, (src = .stream && !m.2.readable) = false ↔
      (src = .stream → m.2.readable = true) := by
    intro m
    by_cases hsrc : src = .stream <;> simp [hsrc]
  constructor
  · intro h
    rw [decoder] at h
    cases hsplit : splitKind src ms none with
    | error e =>
      rw [hsplit] at h
      cases h
    | ok result =>
      obtain ⟨l, body⟩ := result
      obtain ⟨hms, hread, hfills, rfl⟩ := splitKind_eq_ok_iff.mp hsplit
      rw [hsplit] at h
      cases l with
      | none => cases h
      | some k =>
        have htakes : kindField.Takes src k (kindField.part ms) :=
          Draft.takes_iff_fills.mpr ⟨some k, hfills, rfl⟩
        have hbody : bodyDecoder k .held (.record (kindField.rest ms)) = .ok s := h
        rw [bodyDecoder_eq] at hbody
        obtain ⟨vs, hvs, hs⟩ := Document.exists_of_map_eq_ok hbody
        refine ⟨fun hsrc => (readable_iff htakes).mpr fun m hm => ?_, k, vs, ?_, hs⟩
        · exact hfaults.mp (hread m hm) hsrc
        · exact Document.keyed_cons_eq_ok_iff.mpr ⟨hms, takes_kindField htakes, hvs⟩
  · rintro ⟨hread, k, vs, hvs, rfl⟩
    obtain ⟨hms, htakes, hbody⟩ := Document.keyed_cons_eq_ok_iff.mp hvs
    obtain ⟨found, hfills, hfound⟩ := Draft.takes_iff_fills.mp (takes_kindField htakes)
    obtain rfl : found = some k := by
      cases found with
      | none => cases hfound
      | some k' => exact hfound
    have hsplit : splitKind src ms none = .ok (some k, kindField.rest ms) := by
      refine splitKind_eq_ok_iff.mpr ⟨hms, fun m hm => hfaults.mpr fun hsrc => ?_, hfills, rfl⟩
      exact (readable_iff htakes).mp (hread hsrc) m hm
    have hrecord : bodyDecoder k .held (.record (kindField.rest ms)) = .ok (k.ofValues vs) := by
      have hvs' : Decoder.record k.fields .held (.record (kindField.rest ms)) = .ok vs := hbody
      rw [bodyDecoder_eq]
      simp only [hvs']
      rfl
    rw [decoder, hsplit]
    exact hrecord

/-- **A statement is read by position** if its kind comes first. -/
theorem decoder_list_eq_ok_iff {ns : List Node} : decoder src (.list ns) = .ok s ↔
    ∃ n body k, ns = n :: body ∧ Kind.decoder src n = .ok k ∧
      (src = .stream && !(Node.list body).readable) = false ∧
        bodyDecoder k .held (.list body) = .ok s := by
  cases ns with
  | nil => exact iff_of_false (by rintro ⟨⟩) (by rintro ⟨_, _, _, ⟨⟩, -⟩)
  | cons n body =>
    rw [decoder]
    constructor
    · intro h
      cases hk : Kind.decoder src n with
      | error e =>
        rw [hk] at h
        cases h
      | ok k =>
        rw [hk] at h
        simp only [Decoder.held] at h
        split at h
        · cases h
        · next hread =>
          exact ⟨n, body, k, rfl, hk, Bool.eq_false_of_not_eq_true hread, h⟩
    · rintro ⟨_, _, k, ⟨⟩, hk, hread, hbody⟩
      rw [hk]
      simp only [Decoder.held, hread]
      exact hbody

end Kinds

end Statement

end ParamSql
