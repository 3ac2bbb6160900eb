import ParamSql.Proofs.Document.Kind

/-!
# What a document leaves out

A field is left out of a document if nothing is given to it, under its keys or in its position,
or only `null`.  A field that reads `null` as what it stands for when it is missing has that
value then, wherever the record is, and whether `null` is written or nothing makes no difference.

## Main definitions

* `Values.Holds`: the value of one field among the values of a record
* `Document.given`, `Statement.LeavesOut`: what a document has for a field, and that it is nothing
* `Field.IgnoresNull`: `null` stands for nothing

## Main results

* `Document.takes_given`, `Statement.takes_given`: the value of a field is read off what is given
  to it
* `Statement.default_of_leavesOut`: a field that is left out has its default
* `Statement.decoder_insert_null`: a member may be `null` or not be there
-/

namespace ParamSql

namespace Document

/-! ## What is given to a field -/

/-- The values of the fields of a record hold a value of one of them. -/
inductive Values.Holds (f : Field) (v : f.Value) : (fs : List Field) → Values fs → Prop
  | here {fs : List Field} (vs : Values fs) : Holds f v (f :: fs) (v, vs)
  | there {g : Field} {fs : List Field} {vs : Values fs} (w : g.Value) (h : Holds f v fs vs) :
      Holds f v (g :: fs) (w, vs)

/-- What a document has for a field of a record: under the keys of the field, or in its
position. -/
def given (fs : List Field) (f : Field) : Node → List Node
  | .record ms => f.part ms
  | .list ns => ((fs.zip ns).filter (·.1.name == f.name)).map (·.2)
  | _ => []

/-- The field reads `null`, if at all, as what it stands for when it is missing. -/
def Field.IgnoresNull (f : Field) (src : Source) : Prop :=
  ∀ v, f.decode src .null = .ok v ↔ f.default = some v

section Fields

variable {f : Field} {fs : List Field} {src : Source} {ms before after : List (String × Node)}
  {ns : List Node} {n : Node} {key : String} {v : f.Value} {vs : Values fs}

theorem Shared.takes (h : Shared src fs ms vs) (hv : Values.Holds f v fs vs) :
    ∃ ns, f.Takes src v ns ∧ ns.Sublist (f.part ms) := by
  induction hv generalizing ms with
  | here => exact ⟨_, h.1, List.Sublist.refl _⟩
  | there _ _ ih =>
    obtain ⟨ns, htakes, hns⟩ := ih h.2
    exact ⟨ns, htakes, hns.trans ((List.filter_sublist.filter _).map _)⟩

theorem given_list_cons (g : Field) :
    (given fs f (.list ns)).Sublist (given (g :: fs) f (.list (n :: ns))) :=
  ((List.sublist_cons_self _ _).filter _).map _

theorem InOrder.takes (h : InOrder src fs ns vs) (hv : Values.Holds f v fs vs) :
    ∃ ns', f.Takes src v ns' ∧ ns'.Sublist (given fs f (.list ns)) := by
  induction hv generalizing ns with
  | here =>
    refine ⟨_, h.1, ?_⟩
    cases ns with
    | nil => exact List.Sublist.refl _
    | cons n ns => simp [given]
  | @there g fs _ _ _ ih =>
    obtain ⟨ns', htakes, hns⟩ := ih h.2
    refine ⟨ns', htakes, hns.trans ?_⟩
    cases ns with
    | nil => simp [given]
    | cons n ns => exact given_list_cons g

/-- **The value of a field** is read off what the document has for it. -/
theorem takes_given (h : Decoder.record fs src n = .ok vs) (hv : Values.Holds f v fs vs) :
    ∃ ns, f.Takes src v ns ∧ ns.Sublist (given fs f n) := by
  cases n with
  | record ms => exact (keyed_eq_ok_iff.mp h).2.takes hv
  | list ns => exact (positional_eq_ok_iff.mp h).takes hv
  | marred n => cases n <;> cases h
  | _ => cases h

/-- A field that is given nothing but `null` has its default. -/
theorem Field.Takes.default_of_null (h : f.Takes src v ns) (hns : ∀ n ∈ ns, n = .null)
    (hnull : ∀ v, f.decode src .null = .ok v → f.default = some v) : f.default = some v := by
  cases h with
  | given h =>
    rw [hns _ List.mem_cons_self] at h
    exact hnull v h
  | missing h => exact h

/-! ## Adding `null` -/

theorem Field.IgnoresNull.takes_iff (h : f.IgnoresNull src) :
    f.Takes src v [.null] ↔ f.Takes src v [] := by
  rw [takes_cons_iff, takes_nil_iff, and_iff_left rfl]
  exact h v

/-- An option that may be missing is none for `null`. -/
theorem Field.ignoresNull_option {α : Type} {key : String} {aliases : List String}
    (d : Decoder α) : (Field.optional key d.option none aliases).IgnoresNull src := by
  intro v
  constructor <;> rintro ⟨⟩ <;> rfl

theorem Field.part_eq_nil (h : ∀ m ∈ ms, f.accepts m.1 = false) : f.part ms = [] := by
  rw [part, List.filter_eq_nil_iff.mpr fun m hm => by simp [h m hm], List.map_nil]

/-- A member may be `null` or not be there, if its field ignores `null` and has no other
member. -/
theorem Shared.insert_null_iff
    (hfree : ∀ f ∈ fs, f.accepts key = true → ∀ m ∈ before ++ after, f.accepts m.1 = false)
    (hnull : ∀ f ∈ fs, f.accepts key = true → f.IgnoresNull src) :
    Shared src fs (before ++ (key, .null) :: after) vs ↔ Shared src fs (before ++ after) vs := by
  induction fs generalizing before after with
  | nil => simp [Shared, or_imp, forall_and, Node.wellFormed]
  | cons f fs ih =>
    obtain ⟨hf, hfs⟩ := List.forall_mem_cons.mp hfree
    obtain ⟨hf', hfs'⟩ := List.forall_mem_cons.mp hnull
    have hrest : ∀ g ∈ fs, g.accepts key = true →
        ∀ m ∈ f.rest before ++ f.rest after, g.accepts m.1 = false := by
      intro g hg hkey m hm
      rw [← Field.rest_append] at hm
      exact hfs g hg hkey m (List.mem_of_mem_filter hm)
    rw [Shared, Shared, Field.part_append, Field.part_append, Field.part_cons, Field.rest_append,
      Field.rest_append, Field.rest_cons]
    -- the first field that accepts the key takes the member, and those behind it never see it
    cases hkey : f.accepts key with
    | true =>
      obtain ⟨hbefore, hafter⟩ := List.forall_mem_append.mp (hf hkey)
      rw [Field.part_eq_nil hbefore, Field.part_eq_nil hafter]
      exact and_congr_left fun _ => (hf' hkey).takes_iff
    | false => exact and_congr_right fun _ => ih hrest hfs'

end Fields

end Document

open Document (Node Source Field Values Represents Written given Shared Labelled)

namespace Statement

/-- The document has nothing for a field of the statement, or only `null`. -/
def LeavesOut (s : Statement) (f : Field) (n : Node) : Prop :=
  ∀ u ∈ given (kindField :: s.kind.fields) f n, u = .null

section Statements

variable {src : Source} {n : Node} {s : Statement} {before after : List (String × Node)}

theorem kind_ofValues (k : Kind) (vs : Values k.fields) : (k.ofValues vs).kind = k := by
  cases k <;> rfl

/-- The fields of a statement are read off what its document has for them, by key or by
position. -/
theorem takes_given (h : decoder src n = .ok s) :
    ∃ (k : Kind) (vs : Values k.fields), k.ofValues vs = s ∧
      ∀ (f : Field) (v : f.Value), Values.Holds f v k.fields vs →
        ∃ ns, f.Takes .held v ns ∧ ns.Sublist (given (kindField :: k.fields) f n) := by
  cases n with
  | record ms =>
    obtain ⟨-, k, vs, hvs, hs⟩ := decoder_record_eq_ok_iff.mp h
    exact ⟨k, vs, hs, fun f v hv => Document.takes_given hvs (.there (g := kindField) k hv)⟩
  | list ns =>
    obtain ⟨m, body, k, rfl, -, -, hbody⟩ := decoder_list_eq_ok_iff.mp h
    rw [bodyDecoder_eq] at hbody
    obtain ⟨vs, hvs, hs⟩ := Document.exists_of_map_eq_ok hbody
    refine ⟨k, vs, hs, fun f v hv => ?_⟩
    obtain ⟨ns, htakes, hns⟩ := Document.takes_given hvs hv
    exact ⟨ns, htakes, hns.trans (Document.given_list_cons kindField)⟩
  | marred n => cases n <;> cases h
  | _ => cases h

/-- **A field that is left out has its default**, unless `null` means something else to it. -/
theorem default_of_leavesOut (h : decoder src n = .ok s) :
    ∃ (k : Kind) (vs : Values k.fields), k.ofValues vs = s ∧
      ∀ (f : Field) (v : f.Value), Values.Holds f v k.fields vs → s.LeavesOut f n →
        (∀ w, f.decode .held .null = .ok w → f.default = some w) → f.default = some v := by
  obtain ⟨k, vs, rfl, htakes⟩ := takes_given h
  refine ⟨k, vs, rfl, fun f v hv hn hnull => ?_⟩
  obtain ⟨ns, hv, hns⟩ := htakes f v hv
  rw [LeavesOut, kind_ofValues] at hn
  exact hv.default_of_null (fun u hu => hn u (hns.subset hu)) hnull

/-! ## Written fields -/

theorem Kind.represents (k : Kind) : Represents Kind.decoder (.text k.word) k where
  readable := rfl
  decodes _ := by simp only [Kind.decoder, Kind.ofWord?_word]

/-- **A statement is read off its kind and its fields**, of which some may be missing. -/
theorem decoder_of_written {k : Kind} {vs : Values k.fields} {ms : List (String × Node)}
    (h : Written k.fields vs ms) (src : Source) :
    decoder src (.record ((kindKey, .text k.word) :: ms)) = .ok (k.ofValues vs) := by
  have hdistinct : Field.Distinct (kindField :: k.fields) := by cases k <;> decide
  have hrecord := Represents.record hdistinct (Written.there (f := kindField) k.represents h)
  exact decoder_record_eq_ok_iff.mpr
    ⟨fun _ => hrecord.readable, k, vs, hrecord.decodes .held, rfl⟩

/-! ## Absent filters -/

theorem accepts_filterField {key : String} : filterField.accepts key = ("filter" == key) :=
  Bool.or_false _

/-- The key of a filter is that of no other field. -/
theorem eq_filterField {k : Kind} {f : Field} (hf : f ∈ kindField :: k.fields)
    (hkey : f.accepts "filter" = true) : f = filterField := by
  have hfields : ∀ f ∈ kindField :: k.fields, f.accepts "filter" = false ∨ f = filterField := by
    cases k <;>
      simp +decide [Kind.fields, kindField, kindKey, name, flag, optionsField, filterField,
        Field.accepts, Field.required, Field.optional]
  refine (hfields f hf).resolve_left fun hother => ?_
  rw [hkey] at hother
  cases hother

/-- **A filter may be `null` or not be there**, which is the same. -/
theorem decoder_insert_null (hfree : ∀ m ∈ before ++ after, m.1 ≠ "filter") :
    decoder src (.record (before ++ ("filter", .null) :: after)) = .ok s ↔
      decoder src (.record (before ++ after)) = .ok s := by
  have hreadable : (Node.record (before ++ ("filter", .null) :: after)).readable =
      (Node.record (before ++ after)).readable := by
    simp [Node.readable, Node.membersReadable_eq_all]
  have hlabelled : Labelled (before ++ ("filter", .null) :: after) ↔
      Labelled (before ++ after) := by
    simp [Labelled, or_imp, forall_and]
  -- the kind is a field among the others, so one fact about fields serves for finding it, too
  have hkeyed (k : Kind) (vs : Values (kindField :: k.fields)) :
      Document.keyed (kindField :: k.fields) .held (before ++ ("filter", .null) :: after) = .ok vs ↔
        Document.keyed (kindField :: k.fields) .held (before ++ after) = .ok vs := by
    rw [Document.keyed_eq_ok_iff, Document.keyed_eq_ok_iff, hlabelled]
    refine and_congr_right fun _ => Shared.insert_null_iff ?_ ?_
    · intro f hf hkey m hm
      obtain rfl := eq_filterField hf hkey
      rw [accepts_filterField, beq_eq_false_iff_ne]
      exact (hfree m hm).symm
    · intro f hf hkey
      obtain rfl := eq_filterField hf hkey
      exact Field.ignoresNull_option Predicate.decoder
  rw [decoder_record_eq_ok_iff, decoder_record_eq_ok_iff, hreadable]
  exact and_congr_right fun _ => exists_congr fun k => exists_congr fun vs =>
    and_congr_left fun _ => hkeyed k (k, vs)

end Statements

end Statement

end ParamSql
