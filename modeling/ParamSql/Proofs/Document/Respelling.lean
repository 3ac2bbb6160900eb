import Mathlib.Logic.Relation
import ParamSql.Proofs.Document.Reordering

/-!
# Documents that are spelled in another way

A record may have members that no field of its type accepts, and a field may stand under any of its
keys.  Which type a record has depends on where it stands, so this is said along the decoders: what
is spelled in another way for the decoder of a field, of an item or of a form is so for that of the
record, of the list or of the type.  Where one node or a list of nodes may stand, and where the kind
of a statement selects the fields, the document says which it is.

The same document is read the same however it is spelled, and its members may also stand in any
order, down to those that nothing reads.  What is said of a document that is not read may depend on
the order, but not that it is not read.

## Main definitions

* `Respelled d n n'`: the document is spelled in another way for the decoder

## Main results

* `Respelled.decode`: it is read as the same value
* `spelling_is_no_matter`: statements and schemas
-/

namespace ParamSql

open Document (Node Decoder Source Field Labelled)
open Document.Decoder (Orderless)

/-- One record of the document has one member more that no field of its type accepts, or one of its
fields under another key. -/
inductive Respelled : {α : Type} → Decoder α → Node → Node → Prop
  | add {fs : List Field} (before after : List (String × Node)) {key : String} {n : Node}
      (hkey : ∀ f ∈ fs, f.accepts key = false) (hn : n.readable = true) :
      Respelled (Decoder.record fs) (.record (before ++ after))
        (.record (before ++ (key, n) :: after))
  | rename {fs : List Field} {f : Field} (before after : List (String × Node))
      {key key' : String} {n : Node} (hkey : fs.find? (·.accepts key) = some f)
      (hkey' : fs.find? (·.accepts key') = some f) :
      Respelled (Decoder.record fs) (.record (before ++ (key, n) :: after))
        (.record (before ++ (key', n) :: after))
  | member {fs : List Field} {f : Field} (before after : List (String × Node)) {key : String}
      {n n' : Node} (hkey : fs.find? (·.accepts key) = some f) (h : Respelled f.decode n n') :
      Respelled (Decoder.record fs) (.record (before ++ (key, n) :: after))
        (.record (before ++ (key, n') :: after))
  | position {fs : List Field} {f : Field} (before after : List Node) {n n' : Node}
      (hf : fs[before.length]? = some f) (h : Respelled f.decode n n') :
      Respelled (Decoder.record fs) (.list (before ++ n :: after)) (.list (before ++ n' :: after))
  | item {α : Type} {d : Decoder α} (before after : List Node) {n n' : Node}
      (h : Respelled d n n') :
      Respelled d.list (.list (before ++ n :: after)) (.list (before ++ n' :: after))
  | option {α : Type} {d : Decoder α} {n n' : Node} (h : Respelled d n n') :
      Respelled d.option n n'
  | map {α β : Type} {d : Decoder α} (f : α → β) {n n' : Node} (h : Respelled d n n') :
      Respelled (fun src n => (d src n).map f) n n'
  | refine {α β : Type} {d : Decoder α} (convert : α → Except QueryError β) {n n' : Node}
      (h : Respelled d n n') : Respelled (d.refine convert) n n'
  | selectColumn {n n' : Node} (h : Respelled ColumnRef.decoder n n') :
      Respelled SelectColumn.decoder n n'
  | assignment {ms ms' : List (String × Node)}
      (h : Respelled (Decoder.record Assignment.fields) (.record ms) (.record ms')) :
      Respelled Assignment.decoder (.record ms) (.record ms')
  | predicate {n n' : Node}
      (h : Respelled (Decoder.record (Predicate.fields Predicate.oneOrMany)) n n') :
      Respelled Predicate.decoder n n'
  | one {n n' : Node} (hone : ∃ p, Predicate.decoder .held n = .ok p)
      (h : Respelled Predicate.decoder n n') : Respelled Predicate.oneOrMany n n'
  | many {n n' : Node} (hmany : ∃ ps, Predicate.decoder.list .held n = .ok ps)
      (h : Respelled Predicate.decoder.list n n') : Respelled Predicate.oneOrMany n n'
  | statement {k : Statement.Kind} {ms ms' : List (String × Node)}
      (hkind : (Statement.kindKey, .text k.word) ∈ ms)
      (h : Respelled (Decoder.record (Statement.kindField :: k.fields)) (.record ms)
        (.record ms')) :
      Respelled Statement.decoder (.record ms) (.record ms')
  | body {k : Statement.Kind} {ns ns' : List Node}
      (h : Respelled (Decoder.record k.fields) (.list ns) (.list ns')) :
      Respelled Statement.decoder (.list (.text k.word :: ns)) (.list (.text k.word :: ns'))

namespace Respelled

variable {α : Type} {d : Decoder α} {n n' : Node}

/-- What is spelled in another way is a container, and stays one of its kind. -/
theorem isContainer (h : Respelled d n n') :
    (∃ ms ms', n = .record ms ∧ n' = .record ms') ∨ ∃ ns ns', n = .list ns ∧ n' = .list ns' := by
  induction h with
  | add => exact .inl ⟨_, _, rfl, rfl⟩
  | rename => exact .inl ⟨_, _, rfl, rfl⟩
  | member => exact .inl ⟨_, _, rfl, rfl⟩
  | position => exact .inr ⟨_, _, rfl, rfl⟩
  | item => exact .inr ⟨_, _, rfl, rfl⟩
  | body => exact .inr ⟨_, _, rfl, rfl⟩
  | assignment => exact .inl ⟨_, _, rfl, rfl⟩
  | statement => exact .inl ⟨_, _, rfl, rfl⟩
  | option _ ih => exact ih
  | map _ _ ih => exact ih
  | refine _ _ ih => exact ih
  | selectColumn _ ih => exact ih
  | predicate _ ih => exact ih
  | one _ _ ih => exact ih
  | many _ _ ih => exact ih

theorem ne_unlabelled (h : Respelled d n n') : ∀ u, n' ≠ .unlabelled u := by
  obtain ⟨_, _, -, rfl⟩ | ⟨_, _, -, rfl⟩ := h.isContainer <;> simp

theorem ne_null (h : Respelled d n n') : n ≠ .null ∧ n' ≠ .null := by
  obtain ⟨_, _, rfl, rfl⟩ | ⟨_, _, rfl, rfl⟩ := h.isContainer <;> simp

theorem ne_text (h : Respelled d n n') : (∀ s, n ≠ .text s) ∧ ∀ s, n' ≠ .text s := by
  obtain ⟨_, _, rfl, rfl⟩ | ⟨_, _, rfl, rfl⟩ := h.isContainer <;> simp

theorem readable (h : Respelled d n n') (hn : n.readable = true) : n'.readable = true := by
  induction h with
  | add before after _ hu =>
    rw [Node.readable, Node.membersReadable_append, Bool.and_eq_true] at hn
    rw [Node.readable, Node.membersReadable_append, Node.membersReadable, hu, Bool.true_and,
      Bool.and_eq_true]
    exact hn
  | rename before after _ _ =>
    rw [Node.readable, Node.membersReadable_append, Node.membersReadable] at hn ⊢
    exact hn
  | member before after _ _ ih =>
    rw [Node.readable, Node.membersReadable_append, Node.membersReadable, Bool.and_eq_true,
      Bool.and_eq_true] at hn ⊢
    exact ⟨hn.1, ih hn.2.1, hn.2.2⟩
  | position before after _ _ ih =>
    simp only [Node.readable, Node.allReadable_eq_all, List.all_append, List.all_cons,
      Bool.and_eq_true] at hn ⊢
    exact ⟨hn.1, ih hn.2.1, hn.2.2⟩
  | item before after _ ih =>
    simp only [Node.readable, Node.allReadable_eq_all, List.all_append, List.all_cons,
      Bool.and_eq_true] at hn ⊢
    exact ⟨hn.1, ih hn.2.1, hn.2.2⟩
  | body _ ih =>
    rw [Node.readable, Node.allReadable, Bool.and_eq_true] at hn ⊢
    exact ⟨rfl, ih hn.2⟩
  | option _ ih => exact ih hn
  | map _ _ ih => exact ih hn
  | refine _ _ ih => exact ih hn
  | selectColumn _ ih => exact ih hn
  | assignment _ ih => exact ih hn
  | predicate _ ih => exact ih hn
  | one _ _ ih => exact ih hn
  | many _ _ ih => exact ih hn
  | statement _ _ ih => exact ih hn

/-- What can be held back can be so after it is spelled in another way. -/
theorem held_eq (h : Respelled d n n') {src : Source}
    (hn : (src = .stream && !n.readable) = false) : (src = .stream && !n'.readable) = false := by
  by_cases hsrc : src = .stream
  · simp only [hsrc, decide_true, Bool.true_and, Bool.not_eq_false'] at hn ⊢
    exact h.readable hn
  · simp [hsrc]

end Respelled

/-! ## One lemma for each form -/

section Forms

variable {src : Source} {n n' : Node}

theorem Document.Decoder.option_eq_map {α : Type} {d : Decoder α} (hn : n ≠ .null) :
    d.option src n = (d src n).map some := by
  cases n <;> first | rfl | exact absurd rfl hn

/-- A container is read as a column. -/
theorem SelectColumn.decoder_of_container {c : SelectColumn} (hn : ∀ s, n ≠ .text s) :
    SelectColumn.decoder src n = .ok c ↔ (src = .stream && !n.readable) = false ∧
      ∃ r, ColumnRef.decoder .held n = .ok r ∧ c = .ref r := by
  rw [decoder, Decoder.held]
  cases (src = .stream && !n.readable) with
  | true => exact iff_of_false (by rintro ⟨⟩) (by rintro ⟨⟨⟩, -⟩)
  | false =>
    obtain ⟨e, he⟩ : ∃ e, Decoder.text .held n = .error e := by
      cases n <;> first | exact ⟨_, rfl⟩ | exact absurd rfl (hn _)
    simp only [he, Bool.false_eq_true, if_false, true_and]
    cases ColumnRef.decoder .held n with
    | error e => simp
    | ok r => simp [eq_comm]

/-- A record is read as an adjusted column. -/
theorem Assignment.decoder_of_record {ms : List (String × Node)} {a : Assignment} :
    Assignment.decoder src (.record ms) = .ok a ↔
      (src = .stream && !(Node.record ms).readable) = false ∧
        ∃ vs, Decoder.record fields .held (.record ms) = .ok vs ∧ ofValues vs = .ok a := by
  rw [decoder, Decoder.held]
  cases (src = .stream && !(Node.record ms).readable) with
  | true => exact iff_of_false (by rintro ⟨⟩) (by rintro ⟨⟨⟩, -⟩)
  | false =>
    simp only [Bool.false_eq_true, if_false, true_and, Decoder.record]
    cases Document.keyed fields .held ms with
    | error e => simp
    | ok vs => cases hvs : ofValues vs <;> simp [hvs, Except.mapError]

end Forms

namespace Respelled

variable {α : Type} {d : Decoder α} {n n' : Node}

/-- **What is spelled in another way is read as the same value.** -/
theorem decode (h : Respelled d n n') {src : Source} {a : α} (ha : d src n = .ok a) :
    d src n' = .ok a := by
  induction h generalizing src with
  | add before after hkey hn => exact Document.keyed_insert ha hkey hn
  | rename before after hkey hkey' => exact Document.keyed_rename ha hkey hkey'
  | @member fs f before after key n n' hkey h ih =>
    refine Document.keyed_exchange ha ?_ h.ne_unlabelled ?_
    · intro g hg v hv
      obtain rfl := Option.some.inj (hkey.symm.trans hg)
      exact ih hv
    · intro hnone
      cases hkey.symm.trans hnone
  | @position fs f before after n n' hf h ih =>
    refine Document.positional_eq_ok_iff.mpr ((Document.positional_eq_ok_iff.mp ha).exchange ?_)
    intro g hg v hv
    obtain rfl := Option.some.inj (hf.symm.trans hg)
    exact ih hv
  | item before after h ih =>
    obtain ⟨ns, hns, has⟩ := Document.Decoder.list_eq_ok_iff.mp ha
    cases hns
    refine Document.Decoder.list_eq_ok_iff.mpr ⟨_, rfl, ?_⟩
    exact Document.Decoder.forall₂_exchange has fun a ha => ih ha
  | option h ih =>
    obtain ⟨hn, hn'⟩ := h.ne_null
    rw [Document.Decoder.option_eq_map hn] at ha
    rw [Document.Decoder.option_eq_map hn']
    obtain ⟨b, hb, rfl⟩ := Document.exists_of_map_eq_ok ha
    rw [ih hb]
    rfl
  | map f h ih =>
    obtain ⟨b, hb, rfl⟩ := Document.exists_of_map_eq_ok ha
    simp only [ih hb]
    rfl
  | refine convert h ih =>
    simp only [Decoder.refine] at ha ⊢
    split at ha
    · cases ha
    · next b hb =>
      rw [ih hb]
      exact ha
  | selectColumn h ih =>
    obtain ⟨hn, hn'⟩ := h.ne_text
    obtain ⟨hread, r, hr, rfl⟩ := (SelectColumn.decoder_of_container hn).mp ha
    exact (SelectColumn.decoder_of_container hn').mpr ⟨h.held_eq hread, r, ih hr, rfl⟩
  | assignment h ih =>
    obtain ⟨hread, vs, hvs, hassign⟩ := Assignment.decoder_of_record.mp ha
    exact Assignment.decoder_of_record.mpr ⟨h.held_eq hread, vs, ih hvs, hassign⟩
  | predicate h ih =>
    rw [Predicate.decoder_eq_ok_iff] at ha ⊢
    obtain ⟨vs, hvs, rfl⟩ := Document.exists_of_map_eq_ok ha
    rw [ih hvs]
    rfl
  | one hone h ih =>
    rw [Predicate.oneOrMany] at ha ⊢
    rw [Predicate.oneOrManyOf_eq_ok_iff fun _ _ _ => Predicate.isNode_of_decoder] at ha ⊢
    obtain ⟨hread, ⟨p, hp, rfl⟩ | hmany⟩ := ha
    · exact ⟨h.held_eq hread, .inl ⟨p, ih hp, rfl⟩⟩
    · obtain ⟨p, hp⟩ := hone
      exact absurd hmany (Predicate.list_ne_ok (fun _ _ _ => Predicate.isNode_of_decoder)
        (Predicate.isNode_of_decoder hp))
  | many hmany h ih =>
    rw [Predicate.oneOrMany] at ha ⊢
    rw [Predicate.oneOrManyOf_eq_ok_iff fun _ _ _ => Predicate.isNode_of_decoder] at ha ⊢
    obtain ⟨hread, ⟨p, hp, rfl⟩ | hlist⟩ := ha
    · obtain ⟨ps, hps⟩ := hmany
      exact absurd hps (Predicate.list_ne_ok (fun _ _ _ => Predicate.isNode_of_decoder)
        (Predicate.isNode_of_decoder hp))
    · exact ⟨h.held_eq hread, .inr (ih hlist)⟩
  | @statement k ms ms' hkind h ih =>
    obtain ⟨hread, k', vs, hvs, rfl⟩ := Statement.decoder_record_eq_ok_iff.mp ha
    obtain ⟨-, htakes, -⟩ := Document.keyed_cons_eq_ok_iff.mp hvs
    obtain rfl : k' = k := Statement.eq_of_takes_kindField htakes hkind
    exact Statement.decoder_record_eq_ok_iff.mpr
      ⟨fun hsrc => h.readable (hread hsrc), k', vs, ih hvs, rfl⟩
  | @body k ns ns' h ih =>
    obtain ⟨u, rest, k', hns, hk, hread, hbody⟩ := Statement.decoder_list_eq_ok_iff.mp ha
    obtain ⟨rfl, rfl⟩ := List.cons.inj hns
    rw [Statement.Kind.decoder, Statement.Kind.ofWord?_word] at hk
    obtain rfl := Except.ok.inj hk
    rw [Statement.bodyDecoder_eq] at hbody
    obtain ⟨vs, hvs, rfl⟩ := Document.exists_of_map_eq_ok hbody
    refine Statement.decoder_list_eq_ok_iff.mpr ⟨_, _, k, rfl, ?_, h.held_eq hread, ?_⟩
    · rw [Statement.Kind.decoder, Statement.Kind.ofWord?_word]
    · rw [Statement.bodyDecoder_eq]
      simp only [ih hvs]
      rfl

end Respelled

/-! ## Statements and schemas -/

/-- The document is spelled in another way, or has the members of one record in another order. -/
def Rewritten {α : Type} (d : Decoder α) (n n' : Node) : Prop :=
  Node.Reordered n n' ∨ Respelled d n n'

/-- Step by step, what is read stays the same. -/
theorem decode_of_rewritten {α : Type} {d : Decoder α} (hd : d.Orderless) {src : Source}
    {n n' : Node} (h : Relation.ReflTransGen (Rewritten d) n n') {a : α} (ha : d src n = .ok a) :
    d src n' = .ok a := by
  induction h with
  | refl => exact ha
  | tail _ hstep ih =>
    obtain hreordered | hrespelled := hstep
    · exact hd hreordered ih
    · exact hrespelled.decode ih

/-- What is not read is not read in another order, since that order can be undone. -/
theorem error_of_reordered {α : Type} {d : Decoder α} (hd : d.Orderless) {src : Source}
    {n n' : Node} (h : Relation.ReflTransGen Node.Reordered n n')
    (hn : ∃ e, d src n = .error e) : ∃ e, d src n' = .error e := by
  obtain ⟨e, he⟩ := hn
  apply Document.exists_error
  intro a ha
  have hback : Relation.ReflTransGen Node.Reordered n' n := by
    clear he ha
    induction h with
    | refl => exact .refl
    | tail _ hstep ih => exact .head hstep.symm ih
  rw [hd.reordered hback ha] at he
  cases he

/-- **How a document is spelled is no matter.**  A statement or a schema is read as the same value
after any number of steps, each of which puts the members of one record in another order, gives one
record a member that its type does not know, or writes one field under another of its keys.  And
what is not read is not read in another order either. -/
theorem spelling_is_no_matter (src : Source) (n n' : Node) :
    (∀ s, Relation.ReflTransGen (Rewritten Statement.decoder) n n' →
      Statement.decoder src n = .ok s → Statement.decoder src n' = .ok s) ∧
    (∀ s, Relation.ReflTransGen (Rewritten Schema.decoder) n n' →
      Schema.decoder src n = .ok s → Schema.decoder src n' = .ok s) ∧
    (Relation.ReflTransGen Node.Reordered n n' →
      ((∃ e, Statement.decoder src n = .error e) → ∃ e, Statement.decoder src n' = .error e) ∧
      ((∃ e, Schema.decoder src n = .error e) → ∃ e, Schema.decoder src n' = .error e)) :=
  ⟨fun _ h hs => decode_of_rewritten Statement.orderless h hs,
    fun _ h hs => decode_of_rewritten Schema.orderless h hs,
    fun h => ⟨error_of_reordered Statement.orderless h, error_of_reordered Schema.orderless h⟩⟩

/-- A query whose kind comes last, with a column and its filter under their other names, and with a
member that nothing reads in the node under `and`. -/
theorem spelling_is_no_matter_query :
    let inner (more : List (String × Node)) : Node := .record (("column", .text "c") :: more)
    let filter (more : List (String × Node)) : Node :=
      .record [("column", .text "b"), ("and", inner more)]
    let members (column where? : String) (more : List (String × Node)) : List (String × Node) :=
      [("table", .text "t"), ("columns", .list [.record [(column, .text "a")]]),
        ("options", .record [(where?, filter more)])]
    let kind : String × Node := ("kind", .text "select")
    let leaf (column : String) (ands : List Predicate) : Predicate :=
      ⟨⟨column, none, .eq, false, false⟩, ands, []⟩
    let query : Statement :=
      .select "t" [.ref ⟨"a", none, none⟩] { filter := some (leaf "b" [leaf "c" []]) }
    Statement.decoder .stream (.record (kind :: members "column" "filter" [])) = .ok query ∧
      Statement.decoder .stream
        (.record (members "column_name" "where" [("note", .null)] ++ [kind])) = .ok query := by
  intro inner filter members kind leaf query
  have hcolumn : Respelled Statement.decoder (.record (kind :: members "column" "filter" []))
      (.record (kind :: members "column_name" "filter" [])) := by
    refine .statement (k := .select) List.mem_cons_self ?_
    refine .member [kind, ("table", .text "t")] _ rfl ?_
    refine .item [] [] (.selectColumn (.map _ ?_))
    exact .rename [] [] rfl rfl
  have hfilter : Respelled Statement.decoder (.record (kind :: members "column_name" "filter" []))
      (.record (kind :: members "column_name" "where" [])) := by
    refine .statement (k := .select) List.mem_cons_self ?_
    refine .member (kind :: (members "column_name" "" []).take 2) [] rfl (.map _ ?_)
    exact .rename [] [] rfl rfl
  have hnote : Respelled Statement.decoder (.record (kind :: members "column_name" "where" []))
      (.record (kind :: members "column_name" "where" [("note", .null)])) := by
    refine .statement (k := .select) List.mem_cons_self ?_
    refine .member (kind :: (members "column_name" "" []).take 2) [] rfl (.map _ ?_)
    refine .member [] [] rfl (.option (.predicate ?_))
    refine .member [("column", .text "b")] [] rfl (.one ⟨_, rfl⟩ (.predicate ?_))
    exact .add [("column", .text "c")] [] (by decide) rfl
  have horder : Node.Reordered
      (.record (kind :: members "column_name" "where" [("note", .null)]))
      (.record (members "column_name" "where" [("note", .null)] ++ [kind])) :=
    .members (List.perm_append_singleton kind _).symm
  have hread : Statement.decoder .stream (.record (kind :: members "column" "filter" [])) =
      .ok query := rfl
  refine ⟨hread, (spelling_is_no_matter .stream _ _).1 query ?_ hread⟩
  exact (((Relation.ReflTransGen.single (.inr hcolumn)).tail (.inr hfilter)).tail
    (.inr hnote)).tail (.inl horder)

end ParamSql
