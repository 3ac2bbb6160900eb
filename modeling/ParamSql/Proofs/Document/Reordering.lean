import ParamSql.Proofs.Document.Kind
import ParamSql.Proofs.Document.OneOrMany

/-!
# Documents whose members stand in another order

Two documents differ by a reordering if one record somewhere in them has its members in another
order.  The record may stand anywhere: it may be read as a record, be one of the forms that are
tried in turn, or stand under a key that nothing reads.

A decoder is orderless if it reads the same value off such documents.  The scalars are, since they
are read off no container, and the ways of putting decoders together keep it.  What a record reads
does not depend on the order since each field is given the same.  Where forms are tried in turn,
none of them may start to fit; reordering can be undone, so none does.

## Main definitions

* `Node.Reordered`: one record has its members in another order
* `Decoder.Orderless`: the decoder reads the same off documents that differ so

## Main results

* `Orderless.record`, `Orderless.list`, and one lemma for each way of putting decoders together
* `Statement.orderless`, `Schema.orderless`
-/

namespace ParamSql

namespace Document

/-! ## Reordering -/

namespace Node

/-- One record of the document has its members in another order. -/
inductive Reordered : Node → Node → Prop
  | members {ms ms' : List (String × Node)} (h : ms.Perm ms') :
      Reordered (.record ms) (.record ms')
  | member (before : List (String × Node)) (key : String) (after : List (String × Node))
      {n n' : Node} (h : Reordered n n') :
      Reordered (.record (before ++ (key, n) :: after)) (.record (before ++ (key, n') :: after))
  | item (before after : List Node) {n n' : Node} (h : Reordered n n') :
      Reordered (.list (before ++ n :: after)) (.list (before ++ n' :: after))

namespace Reordered

variable {n n' : Node}

protected theorem symm (h : Reordered n n') : Reordered n' n := by
  induction h with
  | members h => exact .members h.symm
  | member before key after _ ih => exact .member before key after ih
  | item before after _ ih => exact .item before after ih

/-- What is reordered is a container. -/
theorem isContainer (h : Reordered n n') : (∃ ms, n = .record ms) ∨ ∃ ns, n = .list ns := by
  cases h with
  | members => exact .inl ⟨_, rfl⟩
  | member => exact .inl ⟨_, rfl⟩
  | item => exact .inr ⟨_, rfl⟩

theorem ne_unlabelled (h : Reordered n n') : ∀ u, n ≠ .unlabelled u := by
  rintro u rfl
  cases h

/-- What has nothing in it has no other order. -/
theorem eq_of_bare (h : Reordered n n') (hn : n = .null ∨ n = .record [] ∨ n = .list []) :
    n' = n := by
  cases h with
  | members h =>
    obtain hn | hn | hn := hn
    · cases hn
    · cases hn
      rw [List.nil_perm.mp h]
    · cases hn
  | member before key after _ => simp at hn
  | item before after _ => simp at hn

/-- One member with nothing under it has no other order. -/
theorem eq_of_single {key : String} {v : Node} (h : Reordered (.record [(key, v)]) n')
    (hv : v = .null ∨ v = .record [] ∨ v = .list []) : n' = .record [(key, v)] := by
  generalize hms : [(key, v)] = ms at h
  cases h with
  | members h =>
    subst hms
    rw [List.singleton_perm.mp h]
  | member before key' after h =>
    cases before with
    | nil =>
      cases hms
      rw [h.eq_of_bare hv]
    | cons m before => simp at hms

end Reordered

namespace Reordered

variable {n n' : Node}

theorem readable_eq (h : Reordered n n') : n.readable = n'.readable := by
  induction h with
  | members h => rw [readable, readable, membersReadable_eq_all, membersReadable_eq_all, h.all_eq]
  | member before key after _ ih =>
    simp only [readable, membersReadable_eq_all, List.all_append, List.all_cons, ih]
  | item before after _ ih =>
    simp only [readable, allReadable_eq_all, List.all_append, List.all_cons, ih]

theorem wellFormed_eq (h : Reordered n n') : n.wellFormed = n'.wellFormed := by
  induction h with
  | members h =>
    rw [wellFormed, wellFormed, membersWellFormed_eq_all, membersWellFormed_eq_all, h.all_eq]
  | member before key after _ ih =>
    simp only [wellFormed, membersWellFormed_eq_all, List.all_append, List.all_cons, ih]
  | item before after _ ih =>
    simp only [wellFormed, allWellFormed_eq_all, List.all_append, List.all_cons, ih]

/-- A bound on the depth is one for the other document, too. -/
theorem depth_le (h : Reordered n n') : n'.depth ≤ n.depth := by
  induction h with
  | members h =>
    rw [depth, depth, Nat.succ_le_succ_iff, depthOfMembers_le_iff]
    intro m hm
    exact depthOfMembers_le_iff.mp le_rfl m (h.mem_iff.mpr hm)
  | @member before key after n n' _ ih =>
    rw [depth, depth, Nat.succ_le_succ_iff, depthOfMembers_le_iff]
    have hall := depthOfMembers_le_iff.mp (le_refl (depthOfMembers (before ++ (key, n) :: after)))
    rw [List.forall_mem_append, List.forall_mem_cons] at hall ⊢
    exact ⟨hall.1, ih.trans hall.2.1, hall.2.2⟩
  | @item before after n n' _ ih =>
    rw [depth, depth, Nat.succ_le_succ_iff, depthOfAll_le_iff]
    have hall := depthOfAll_le_iff.mp (le_refl (depthOfAll (before ++ n :: after)))
    rw [List.forall_mem_append, List.forall_mem_cons] at hall ⊢
    exact ⟨hall.1, ih.trans hall.2.1, hall.2.2⟩

theorem depth_eq (h : Reordered n n') : n.depth = n'.depth :=
  le_antisymm h.symm.depth_le h.depth_le

end Reordered

end Node

/-! ## Decoders that do not depend on the order -/

/-- The decoder reads the same value off documents that differ by a reordering. -/
def Decoder.Orderless {α : Type} (d : Decoder α) : Prop :=
  ∀ ⦃src n n' a⦄, Node.Reordered n n' → d src n = .ok a → d src n' = .ok a

/-- The field reads the same value off documents that differ by a reordering. -/
def Field.Orderless (f : Field) : Prop := f.decode.Orderless

/-- Any number of reorderings is no matter either. -/
theorem Decoder.Orderless.reordered {α : Type} {d : Decoder α} (h : d.Orderless) {src : Source}
    {n n' : Node} {a : α} (hn : Relation.ReflTransGen Node.Reordered n n')
    (ha : d src n = .ok a) : d src n' = .ok a := by
  induction hn with
  | refl => exact ha
  | tail _ hstep ih => exact h hstep ih

section Fields

variable {α : Type} {name : String} {d : Decoder α} {default : α} {aliases : List String}

@[simp] theorem Field.orderless_required : (Field.required name d aliases).Orderless ↔ d.Orderless :=
  Iff.rfl

@[simp] theorem Field.orderless_optional :
    (Field.optional name d default aliases).Orderless ↔ d.Orderless :=
  Iff.rfl

end Fields

namespace Decoder

variable {α β : Type} {d : Decoder α}

/-- An item of a list may be exchanged for one that is read alike. -/
theorem forall₂_exchange {R : Node → α → Prop} {before after : List Node} {n n' : Node}
    {as : List α} (h : List.Forall₂ R (before ++ n :: after) as) (hn : ∀ a, R n a → R n' a) :
    List.Forall₂ R (before ++ n' :: after) as := by
  induction before generalizing as with
  | nil =>
    obtain ⟨a, rest, ha, hrest, rfl⟩ := List.forall₂_cons_left_iff.mp h
    exact .cons (hn a ha) hrest
  | cons u before ih =>
    obtain ⟨a, rest, ha, hrest, rfl⟩ := List.forall₂_cons_left_iff.mp h
    exact .cons ha (ih hrest)

/-- A word that is read off a record is its one key, with nothing under it. -/
theorem variant_record_eq_ok {ofWord? : String → Option α} {src : Source}
    {ms : List (String × Node)} {a : α} (h : variant ofWord? src (.record ms) = .ok a) :
    ∃ k v, ms = [(k, v)] ∧ (v = .null ∨ v = .record [] ∨ v = .list []) := by
  rcases ms with _ | ⟨⟨k, v⟩, _ | ⟨m, ms⟩⟩
  · cases src <;> cases h
  · refine ⟨k, v, rfl, ?_⟩
    by_cases hdate : src = .toml ∧ k = dateKey
    · obtain ⟨rfl, rfl⟩ := hdate
      cases h
    · cases hk : variant.named ofWord? k with
      | error e => cases src <;> cases v <;> simp_all [variant, bind, Except.bind]
      | ok b =>
        rcases v with _ | _ | _ | _ | _ | (_ | _) | (_ | _) | _ | _ | _ <;> cases src <;>
          simp_all [variant, bind, Except.bind]
  · cases src with
    | stream =>
      cases hk : variant.named ofWord? k <;> cases v <;>
        simp [variant, hk, bind, Except.bind] at h
    | _ => cases h

/-- What is read off no container is not read off what can be reordered. -/
theorem Orderless.of_ne_container (hrecord : ∀ src ms a, d src (.record ms) ≠ .ok a)
    (hlist : ∀ src ns a, d src (.list ns) ≠ .ok a) : d.Orderless := by
  intro src n n' a hn ha
  obtain ⟨ms, rfl⟩ | ⟨ns, rfl⟩ := hn.isContainer
  · exact absurd ha (hrecord src ms a)
  · exact absurd ha (hlist src ns a)

namespace Orderless

@[simp] protected theorem text : text.Orderless :=
  .of_ne_container (fun _ _ _ => by rintro ⟨⟩) (fun _ _ _ => by rintro ⟨⟩)

@[simp] protected theorem bool : bool.Orderless :=
  .of_ne_container (fun _ _ _ => by rintro ⟨⟩) (fun _ _ _ => by rintro ⟨⟩)

@[simp] protected theorem uint64 : uint64.Orderless :=
  .of_ne_container (fun _ _ _ => by rintro ⟨⟩) (fun _ _ _ => by rintro ⟨⟩)

protected theorem map (h : d.Orderless) (f : α → β) :
    Orderless fun src n => (d src n).map f := by
  intro src n n' b hn hb
  obtain ⟨a, ha, rfl⟩ := exists_of_map_eq_ok hb
  simp only [h hn ha]
  rfl

@[simp] protected theorem refine (h : d.Orderless) (convert : α → Except QueryError β) :
    (d.refine convert).Orderless := by
  intro src n n' b hn hb
  simp only [Decoder.refine] at hb ⊢
  split at hb
  · cases hb
  · next a ha =>
    rw [h hn ha]
    exact hb

@[simp] protected theorem held (h : d.Orderless) : d.held.Orderless := by
  intro src n n' a hn ha
  rw [Decoder.held] at ha ⊢
  rw [← hn.readable_eq]
  split at ha
  · cases ha
  · next hread =>
    rw [if_neg hread]
    exact h hn ha

@[simp] protected theorem option (h : d.Orderless) : d.option.Orderless := by
  have hoption : ∀ {src n}, (∃ ms, n = .record ms) ∨ (∃ ns, n = .list ns) →
      d.option src n = (d src n).map some := by
    rintro src n (⟨ms, rfl⟩ | ⟨ns, rfl⟩)
    · rfl
    · rfl
  intro src n n' o hn ho
  rw [hoption hn.isContainer] at ho
  rw [hoption hn.symm.isContainer]
  exact h.map some hn ho

@[simp] protected theorem list (h : d.Orderless) : d.list.Orderless := by
  intro src n n' as hn has
  obtain ⟨ns, rfl, hns⟩ := list_eq_ok_iff.mp has
  cases hn with
  | item before after hn =>
    refine list_eq_ok_iff.mpr ⟨_, rfl, forall₂_exchange hns ?_⟩
    intro a ha
    exact h hn ha

@[simp] protected theorem variant (ofWord? : String → Option α) : (variant ofWord?).Orderless := by
  intro src n n' a hn ha
  obtain ⟨ms, rfl⟩ | ⟨ns, rfl⟩ := hn.isContainer
  · obtain ⟨k, v, rfl, hv⟩ := variant_record_eq_ok ha
    rw [hn.eq_of_single hv]
    exact ha
  · cases src <;> cases ha

/-- **A record is orderless** if its fields are. -/
protected theorem record {fs : List Field} (h : ∀ f ∈ fs, f.Orderless) :
    (record fs).Orderless := by
  intro src n n' vs hn hvs
  cases hn with
  | members hms => exact keyed_perm hvs hms
  | member before key after hn =>
    refine keyed_exchange hvs ?_ hn.symm.ne_unlabelled ?_
    · intro f hf v hv
      exact h f (List.mem_of_find?_eq_some hf) hn hv
    · intro _ hwell
      rwa [← hn.wellFormed_eq]
  | item before after hn =>
    refine positional_eq_ok_iff.mpr ((positional_eq_ok_iff.mp hvs).exchange ?_)
    intro f hf v hv
    exact h f (List.mem_of_getElem? hf) hn hv

end Orderless

end Decoder

end Document

open Document (Node Decoder Source Field Labelled)
open Document.Decoder (Orderless)

/-! ## Predicates -/

@[simp] theorem Comparison.orderless : Comparison.decoder.Orderless := Orderless.text.refine _

namespace Predicate

/-- One node or a list of nodes is orderless if nodes are. -/
theorem orderless_oneOrManyOf {one : Decoder Predicate}
    (hone : ∀ src n p, one src n = .ok p → IsNode n) (h : one.Orderless) :
    (oneOrManyOf one).Orderless := by
  intro src n n' ps hn hps
  rw [oneOrManyOf_eq_ok_iff hone] at hps ⊢
  rw [← hn.readable_eq]
  refine ⟨hps.1, hps.2.imp ?_ (h.list hn)⟩
  rintro ⟨p, hp, rfl⟩
  exact ⟨p, h hn hp, rfl⟩

/-- On the bound of the depth: the nodes inside are read with one less. -/
theorem orderless_decoderAt (depth : Nat) : (decoderAt depth).Orderless := by
  induction depth with
  | zero =>
    intro src n n' p hn hp
    cases hp
  | succ depth ih =>
    have hnodes : (oneOrManyOf (decoderAt depth)).Orderless :=
      orderless_oneOrManyOf (fun _ _ _ => isNode_of_decoderAt) ih
    exact (Orderless.record (by simp [fields, hnodes])).map _

@[simp] theorem orderless : decoder.Orderless := by
  intro src n n' p hn hp
  rw [decoder] at hp ⊢
  rw [← hn.depth_eq]
  exact orderless_decoderAt _ hn hp

end Predicate

/-! ## Columns and clauses -/

@[simp] theorem ColumnRef.orderless : ColumnRef.decoder.Orderless :=
  (Orderless.record (by simp [fields])).map ofValues

@[simp] theorem SelectColumn.orderless : SelectColumn.decoder.Orderless := by
  refine Orderless.held ?_
  intro src n n' c hn hc
  -- a container is no text, so it is a column, or nothing
  have htext : ∀ {m : Node}, (∃ ms, m = .record ms) ∨ (∃ ns, m = .list ns) →
      ∃ e, Decoder.text src m = .error e := by
    rintro m (⟨ms, rfl⟩ | ⟨ns, rfl⟩)
    · exact ⟨_, rfl⟩
    · exact ⟨_, rfl⟩
  obtain ⟨e, he⟩ := htext hn.isContainer
  obtain ⟨e', he'⟩ := htext hn.symm.isContainer
  simp only [he, he'] at hc ⊢
  split at hc
  · next r hr =>
    rw [ColumnRef.orderless hn hr]
    exact hc
  · cases hc

@[simp] theorem DefaultValue.orderless : DefaultValue.decoder.Orderless :=
  Orderless.held (.of_ne_container (fun _ _ _ => by rintro ⟨⟩) (fun _ _ _ => by rintro ⟨⟩))

@[simp] theorem ColumnOptions.orderless : ColumnOptions.decoder.Orderless :=
  (Orderless.record (by simp [fields])).map ofValues

@[simp] theorem ForeignKey.orderless : ForeignKey.decoder.Orderless :=
  (Orderless.record (by simp [fields])).map ofValues

@[simp] theorem ColumnDef.orderless : ColumnDef.decoder.Orderless :=
  (Orderless.record (by simp [fields, ColumnType.decoder])).map ofValues

@[simp] theorem Assignment.orderless : Assignment.decoder.Orderless := by
  refine Orderless.held ?_
  have hfields : (Decoder.record fields).Orderless := .record (by simp [fields])
  intro src n n' a hn ha
  obtain ⟨ms, rfl⟩ | ⟨ns, rfl⟩ := hn.isContainer
  · obtain ⟨ms', rfl⟩ | ⟨ns', rfl⟩ := hn.symm.isContainer
    · cases hvs : Document.keyed fields src ms with
      | error e =>
        simp only [hvs] at ha
        cases ha
      | ok vs =>
        have hvs' : Document.keyed fields src ms' = .ok vs := hfields hn hvs
        simp only [hvs, hvs'] at ha ⊢
        exact ha
    · cases hn
  · cases ha

@[simp] theorem InnerJoin.orderless : InnerJoin.decoder.Orderless :=
  (Orderless.record (by simp [fields])).map ofValues

@[simp] theorem OrderTerm.orderless : OrderTerm.decoder.Orderless :=
  (Orderless.record (by simp [fields])).map ofValues

@[simp] theorem SelectOptions.orderless : SelectOptions.decoder.Orderless :=
  (Orderless.record (by simp [fields])).map ofValues

@[simp] theorem RenameColumn.orderless : RenameColumn.decoder.Orderless :=
  (Orderless.record (by simp [fields])).map ofValues

@[simp] theorem AlterOptions.orderless : AlterOptions.decoder.Orderless :=
  (Orderless.record (by simp [fields])).map ofValues

@[simp] theorem Alteration.orderless : Alteration.decoder.Orderless :=
  AlterOptions.orderless.refine _

/-! ## Statements and schemas -/

namespace Statement

theorem orderless_fields (k : Kind) : ∀ f ∈ k.fields, f.Orderless := by
  cases k <;> simp [Kind.fields, name, flag, filterField, optionsField]

/-- **Statements do not depend on the order of members**, the kind among them. -/
theorem orderless : decoder.Orderless := by
  have hkind : kindField.Orderless :=
    Orderless.of_ne_container (fun _ _ _ => by rintro ⟨⟩) (fun _ _ _ => by rintro ⟨⟩)
  intro src n n' s hn hs
  obtain ⟨ms, rfl⟩ | ⟨ns, rfl⟩ := hn.isContainer
  · obtain ⟨ms', rfl⟩ | ⟨ns', rfl⟩ := hn.symm.isContainer
    · obtain ⟨hread, k, vs, hvs, rfl⟩ := decoder_record_eq_ok_iff.mp hs
      have hfields : (Decoder.record (kindField :: k.fields)).Orderless :=
        .record (List.forall_mem_cons.mpr ⟨hkind, orderless_fields k⟩)
      rw [hn.readable_eq] at hread
      exact decoder_record_eq_ok_iff.mpr ⟨hread, k, vs, hfields hn hvs, rfl⟩
    · cases hn
  · obtain ⟨u, body, k, rfl, hk, hread, hbody⟩ := decoder_list_eq_ok_iff.mp hs
    generalize hns : u :: body = ns at hn
    cases hn with
    | @item before after n n' hn =>
      refine decoder_list_eq_ok_iff.mpr ?_
      cases before with
      | nil =>
        cases hns
        exact ⟨_, _, k, rfl, hkind hn hk, hread, hbody⟩
      | cons v before =>
        rw [List.cons_append] at hns ⊢
        obtain ⟨rfl, rfl⟩ := List.cons.inj hns
        have hrest := Node.Reordered.item before after hn
        rw [hrest.readable_eq] at hread
        refine ⟨_, _, k, rfl, hk, hread, ?_⟩
        rw [bodyDecoder_eq] at hbody ⊢
        exact (Orderless.record (orderless_fields k)).map k.ofValues hrest hbody

end Statement

theorem Table.orderless : Table.decoder.Orderless :=
  (Orderless.record (by simp [fields])).map ofValues

theorem View.orderless : View.decoder.Orderless :=
  (Orderless.record (by simp [fields])).map ofValues

theorem Index.orderless : Index.decoder.Orderless :=
  (Orderless.record (by simp [fields])).map ofValues

/-- **Schemas do not depend on the order of members.** -/
theorem Schema.orderless : Schema.decoder.Orderless :=
  (Orderless.record (by simp [fields, Table.orderless, View.orderless, Index.orderless])).map
    ofValues

end ParamSql
