import ParamSql.Document.Predicate
import ParamSql.Proofs.Document.Fields
import ParamSql.Proofs.Document.Roundtrip

/-!
# One node or a list of nodes

Under `and` and `or` stands one node or a list of nodes, and one node is tried first.  A node may
itself be written as a list, of its fields.  Such a list begins with the column, which is a text,
and a text is no node; so nothing is read both as one node and as a list of nodes, and what stands
there is read as what it is.

How deep the nodes are nested bounds the recursion of the reader, but what is read does not depend
on the bound, and for a value of a document it does not depend on the source either.

## Main definitions

* `Predicate.IsNode`: what is written for one node

## Main results

* `Predicate.list_ne_ok`: what is read as one node is not read as a list of nodes
* `Predicate.decoderAt_eq_ok_iff`, `Predicate.decoder_eq_ok_iff`: the depth is no matter
* `Predicate.decoder_transfer`: the source is no matter
* `Predicate.oneOrMany_never_misread`: what stands under `and` and `or`
-/

namespace ParamSql

open Document (Node Decoder Source Field Values Labelled Shared InOrder)

/-! ## Lists -/

/-- What gives no result fails. -/
theorem Document.exists_error {ε α : Type} {x : Except ε α} (h : ∀ a, x ≠ .ok a) :
    ∃ e, x = .error e := by
  cases x with
  | ok a => exact absurd rfl (h a)
  | error e => exact ⟨e, rfl⟩

namespace Document.Decoder

variable {α : Type} {d d' : Decoder α} {src src' : Source} {n : Node} {ns : List Node}
  {as : List α}

theorem items_eq_ok_iff :
    items d src ns = .ok as ↔ List.Forall₂ (fun n a => d src n = .ok a) ns as := by
  induction ns generalizing as with
  | nil =>
    rw [items, List.forall₂_nil_left_iff]
    exact ⟨fun h => (Except.ok.inj h).symm, fun h => h ▸ rfl⟩
  | cons n ns ih =>
    rw [items]
    constructor
    · intro h
      split at h
      · cases h
      · next a ha =>
        obtain ⟨rest, hrest, rfl⟩ := exists_of_map_eq_ok h
        exact .cons ha (ih.mp hrest)
    · rintro (_ | ⟨ha, hrest⟩)
      simp only [ha, ih.mpr hrest]
      rfl

/-- A list is read item by item. -/
theorem list_eq_ok_iff : d.list src n = .ok as ↔
    ∃ ns, n = .list ns ∧ List.Forall₂ (fun n a => d src n = .ok a) ns as := by
  constructor
  · intro h
    cases n with
    | list ns => exact ⟨ns, rfl, items_eq_ok_iff.mp h⟩
    | marred n => cases n <;> cases h
    | _ => cases h
  · rintro ⟨ns, rfl, h⟩
    exact items_eq_ok_iff.mpr h

end Document.Decoder

theorem Document.Node.readable_of_mem_list {n : Node} {ns : List Node}
    (h : (Node.list ns).readable = true) (hn : n ∈ ns) : n.readable = true := by
  rw [Node.readable, Node.allReadable_eq_all, List.all_eq_true] at h
  exact h n hn

namespace Predicate

/-! ## Nodes -/

/-- A node that is written for one predicate: a record, or a list that begins with a column. -/
def IsNode : Node → Prop
  | .record _ => True
  | .list (.text _ :: _) => True
  | _ => False

section Nodes

variable {n : Node} {depth : Nat} {src src' : Source} {p : Predicate} {ps : List Predicate}
  {one : Decoder Predicate}

/-- What is read as a predicate was written for one. -/
theorem isNode_of_record {nodes : Decoder (List Predicate)} {vs : Values (fields nodes)}
    (h : Decoder.record (fields nodes) src n = .ok vs) : IsNode n := by
  cases n with
  | record ms => trivial
  | list ns =>
    cases ns with
    | nil => cases h
    | cons u ns =>
      cases u with
      | text s => trivial
      | _ => cases h
  | marred n => cases n <;> cases h
  | _ => cases h

theorem isNode_of_decoderAt (h : decoderAt depth src n = .ok p) : IsNode n := by
  cases depth with
  | zero => cases h
  | succ depth =>
    obtain ⟨vs, hvs, -⟩ := Document.exists_of_map_eq_ok h
    exact isNode_of_record hvs

theorem isNode_of_decoder (h : decoder src n = .ok p) : IsNode n := isNode_of_decoderAt h

theorem IsNode.depth_pos (h : IsNode n) : 0 < n.depth := by
  cases n with
  | record ms => exact Nat.succ_pos _
  | list ns => exact Nat.succ_pos _
  | _ => cases h

/-- **What is written for one node is not read as a list of nodes.** -/
theorem list_ne_ok (hone : ∀ src n p, one src n = .ok p → IsNode n) (hn : IsNode n) :
    one.list src n ≠ .ok ps := by
  intro h
  obtain ⟨ns, rfl, hns⟩ := Document.Decoder.list_eq_ok_iff.mp h
  cases hns with
  | nil => exact hn
  | @cons u _ _ _ ha _ =>
    -- the first item would be a text, being a column, and no text, being a node
    cases u with
    | text s => exact hone _ _ _ ha
    | _ => exact hn

/-- One of the two ways of reading has succeeded. -/
theorem oneOrManyOf_eq_ok_iff (hone : ∀ src n p, one src n = .ok p → IsNode n) :
    oneOrManyOf one src n = .ok ps ↔ (src = .stream && !n.readable) = false ∧
      ((∃ p, one .held n = .ok p ∧ ps = [p]) ∨ one.list .held n = .ok ps) := by
  rw [oneOrManyOf, Decoder.held]
  cases (src = .stream && !n.readable) with
  | true => exact iff_of_false (by rintro ⟨⟩) (by rintro ⟨⟨⟩, -⟩)
  | false =>
    rw [if_neg Bool.false_ne_true, and_iff_right rfl]
    cases hn : one .held n with
    | ok p =>
      have hlist : one.list .held n ≠ .ok ps := list_ne_ok hone (hone _ _ _ hn)
      simp [hlist, eq_comm]
    | error e =>
      cases one.list .held n <;> simp

/-- If neither way of reading succeeds, only that is said. -/
theorem oneOrManyOf_eq_error (hread : (src = .stream && !n.readable) = false)
    (hone : ∃ e, one .held n = .error e) (hlist : ∃ e, one.list .held n = .error e) :
    oneOrManyOf one src n = .error (.noVariant "OneOrMany") := by
  obtain ⟨e, he⟩ := hone
  obtain ⟨e', he'⟩ := hlist
  rw [oneOrManyOf, Decoder.held, if_neg (by rw [hread]; exact Bool.false_ne_true)]
  simp only [he, he']

end Nodes

/-! ## The depth -/

section Depth

variable {n : Node} {j k : Nat} {src : Source} {p : Predicate} {ps : List Predicate}
  {nodes nodes' : Decoder (List Predicate)} {ms : List (String × Node)} {ns : List Node}

/-- Only `and` and `or` depend on how nodes are read. -/
theorem shared_nodes {vs : Values (fields nodes)}
    (hnodes : ∀ m ∈ ms, ∀ ps, nodes src m.2 = .ok ps → nodes' src m.2 = .ok ps)
    (h : Shared src (fields nodes) ms vs) : Shared src (fields nodes') ms vs := by
  obtain ⟨hcolumn, htable, hop, hlower, hupper, hands, hors, hrest⟩ := h
  refine ⟨hcolumn, htable, hop, hlower, hupper, hands.transfer ?_, hors.transfer ?_, hrest⟩
  · intro n hn
    obtain ⟨m, hm, rfl⟩ := Field.exists_of_mem_part hn
    simp only [Field.rest, List.mem_filter] at hm
    exact hnodes m hm.1.1.1.1.1
  · intro n hn
    obtain ⟨m, hm, rfl⟩ := Field.exists_of_mem_part hn
    simp only [Field.rest, List.mem_filter] at hm
    exact hnodes m hm.1.1.1.1.1.1

theorem inOrder_nodes {vs : Values (fields nodes)}
    (hnodes : ∀ n ∈ ns, ∀ ps, nodes src n = .ok ps → nodes' src n = .ok ps)
    (h : InOrder src (fields nodes) ns vs) : InOrder src (fields nodes') ns vs := by
  obtain ⟨hcolumn, htable, hop, hlower, hupper, hands, hors, hrest⟩ := h
  refine ⟨hcolumn, htable, hop, hlower, hupper, hands.transfer ?_, hors.transfer ?_, hrest⟩
  · intro n hn
    simp only [List.drop_drop] at hn
    exact hnodes n (List.mem_of_mem_drop (List.mem_of_mem_take hn))
  · intro n hn
    simp only [List.drop_drop] at hn
    exact hnodes n (List.mem_of_mem_drop (List.mem_of_mem_take hn))

/-- What is read for one node depends on how the nodes inside are read. -/
theorem record_nodes
    (hnodes : ∀ m : Node, m.depth < n.depth → ∀ ps, nodes src m = .ok ps → nodes' src m = .ok ps)
    (h : (Decoder.record (fields nodes) src n).map (ofValues nodes) = .ok p) :
    (Decoder.record (fields nodes') src n).map (ofValues nodes') = .ok p := by
  obtain ⟨vs, hvs, rfl⟩ := Document.exists_of_map_eq_ok h
  suffices hvs' : Decoder.record (fields nodes') src n = .ok vs by rw [hvs']; rfl
  cases n with
  | record ms =>
    obtain ⟨hms, hshared⟩ := Document.keyed_eq_ok_iff.mp hvs
    refine Document.keyed_eq_ok_iff.mpr ⟨hms, shared_nodes (fun m hm => hnodes m.2 ?_) hshared⟩
    exact Nat.lt_succ_of_le (Node.depth_le_depthOfMembers hm)
  | list ns =>
    refine Document.positional_eq_ok_iff.mpr
      (inOrder_nodes (fun m hm => hnodes m ?_) (Document.positional_eq_ok_iff.mp hvs))
    exact Nat.lt_succ_of_le (Node.depth_le_depthOfAll hm)
  | marred n => cases n <;> cases hvs
  | _ => cases hvs

/-- One node or a list of nodes is read in another way if nodes are. -/
theorem oneOrManyOf_transfer {one one' : Decoder Predicate}
    (hone : ∀ src n p, one src n = .ok p → IsNode n)
    (hone' : ∀ src n p, one' src n = .ok p → IsNode n)
    (htransfer : ∀ u : Node, u.depth ≤ n.depth → ∀ p, one .held u = .ok p → one' .held u = .ok p)
    (h : oneOrManyOf one src n = .ok ps) : oneOrManyOf one' src n = .ok ps := by
  rw [oneOrManyOf_eq_ok_iff hone] at h
  rw [oneOrManyOf_eq_ok_iff hone']
  refine ⟨h.1, h.2.imp (fun ⟨p, hp, hps⟩ => ⟨p, htransfer n le_rfl p hp, hps⟩) fun hmany => ?_⟩
  obtain ⟨ns, rfl, hns⟩ := Document.Decoder.list_eq_ok_iff.mp hmany
  have hdepth : ∀ u ∈ ns, u.depth ≤ (Node.list ns).depth := fun u hu =>
    (Node.depth_le_depthOfAll hu).trans (Nat.le_succ _)
  refine Document.Decoder.list_eq_ok_iff.mpr ⟨ns, rfl, ?_⟩
  exact ((List.forall₂_and_left _ _).mpr ⟨hdepth, hns⟩).imp fun u p ⟨hu, hp⟩ => htransfer u hu p hp

/-- What is read with some bound on the depth is read with every bound that the node keeps. -/
theorem decoderAt_of_le (h : decoderAt j src n = .ok p) (hk : n.depth ≤ k) :
    decoderAt k src n = .ok p := by
  -- on the bound that is known to do: nodes inside are read with one less, by either bound
  induction j generalizing k src n p with
  | zero => cases h
  | succ j ih =>
    obtain ⟨k, rfl⟩ := Nat.exists_eq_add_one.mpr ((isNode_of_decoderAt h).depth_pos.trans_le hk)
    refine record_nodes (fun m hm ps hps => ?_) h
    refine oneOrManyOf_transfer (fun _ _ _ => isNode_of_decoderAt)
      (fun _ _ _ => isNode_of_decoderAt) ?_ hps
    intro u hu p hp
    exact ih hp (Nat.le_of_lt_succ ((hu.trans_lt hm).trans_le hk))

/-- The bound is no matter. -/
theorem decoderAt_eq_ok_iff (hk : n.depth ≤ k) :
    decoderAt k src n = .ok p ↔ decoder src n = .ok p :=
  ⟨fun h => decoderAt_of_le h le_rfl, fun h => decoderAt_of_le h hk⟩

/-- A predicate is read off the fields of its node, with nodes inside `and` and `or`. -/
theorem decoder_eq_ok_iff : decoder src n = .ok p ↔
    (Decoder.record (fields oneOrMany) src n).map (ofValues oneOrMany) = .ok p := by
  have hnode : ∀ {depth : Nat}, n.depth = depth + 1 → ∀ m : Node, m.depth < n.depth →
      ∀ {u : Node}, u.depth ≤ m.depth → u.depth ≤ depth := by
    intro depth hdepth m hm u hu
    omega
  constructor
  · intro h
    obtain ⟨depth, hdepth⟩ := Nat.exists_eq_add_one.mpr (isNode_of_decoder h).depth_pos
    rw [decoder, hdepth] at h
    refine record_nodes (fun m hm ps hps => ?_) h
    refine oneOrManyOf_transfer (fun _ _ _ => isNode_of_decoderAt)
      (fun _ _ _ => isNode_of_decoder) (fun u hu p hp => ?_) hps
    exact (decoderAt_eq_ok_iff (hnode hdepth m hm hu)).mp hp
  · intro h
    obtain ⟨vs, hvs, -⟩ := Document.exists_of_map_eq_ok h
    obtain ⟨depth, hdepth⟩ := Nat.exists_eq_add_one.mpr (isNode_of_record hvs).depth_pos
    rw [decoder, hdepth]
    refine record_nodes (fun m hm ps hps => ?_) h
    refine oneOrManyOf_transfer (fun _ _ _ => isNode_of_decoder)
      (fun _ _ _ => isNode_of_decoderAt) (fun u hu p hp => ?_) hps
    exact (decoderAt_eq_ok_iff (hnode hdepth m hm hu)).mpr hp

end Depth

/-! ## The source -/

section Sources

variable {n : Node} {src src' : Source} {p : Predicate} {ps : List Predicate} {ns : List Node}

/-- A field of a predicate reads a value of a document alike from every source. -/
theorem decode_source {one : Decoder Predicate} {f : Field} (hf : f ∈ fields (oneOrManyOf one))
    (hn : n.readable = true) : f.decode src n = f.decode src' n := by
  have hnodes : oneOrManyOf one src n = oneOrManyOf one src' n := by
    simp [oneOrManyOf, Decoder.held, hn]
  simp only [fields, List.mem_cons, List.not_mem_nil, or_false] at hf
  obtain rfl | rfl | rfl | rfl | rfl | rfl | rfl := hf
  · cases n <;> rfl
  · cases n <;> rfl
  · cases n <;> rfl
  · cases n <;> rfl
  · cases n <;> rfl
  · exact hnodes
  · exact hnodes

/-- A value of a document is read as a predicate from every source. -/
theorem decoder_transfer (hsrc : src ≠ .toml) (hn : n.readable = true)
    (h : decoder src n = .ok p) : decoder src' n = .ok p := by
  rw [decoder_eq_ok_iff] at h ⊢
  obtain ⟨vs, hvs, rfl⟩ := Document.exists_of_map_eq_ok h
  suffices hvs' : Decoder.record (fields oneOrMany) src' n = .ok vs by rw [hvs']; rfl
  cases n with
  | record ms =>
    obtain ⟨hms, hshared⟩ := Document.keyed_eq_ok_iff.mp hvs
    refine Document.keyed_eq_ok_iff.mpr ⟨hms, hshared.transfer fun f hf m hm v hv => ?_⟩
    rwa [← decode_source hf (Node.readable_of_mem hn hm)]
  | list ns =>
    refine Document.positional_eq_ok_iff.mpr
      ((Document.positional_eq_ok_iff.mp hvs).transfer hsrc fun f hf m hm v hv => ?_)
    rwa [← decode_source hf (Node.readable_of_mem_list hn hm)]
  | marred n => cases n <;> cases hvs
  | _ => cases hvs

end Sources

/-! ## One or many -/

/-- **What stands under `and` and `or` is never misread.**  A value of a document is not both one
predicate and a list of predicates; one predicate is read as such, by key or by position, and so is
a list of them, the empty one among them; anything else is refused.  This is how the fields `and`
and `or` of a predicate are read, and it does not matter from where. -/
theorem oneOrMany_never_misread {src : Source} (hsrc : src ≠ .toml) {v : Node}
    (hv : v.readable = true) :
    (∀ p ps, decoder src v = .ok p → decoder.list src v ≠ .ok ps) ∧
    (∀ p, decoder src v = .ok p → ∀ src', oneOrMany src' v = .ok [p]) ∧
    (∀ vs ps, v = .list vs → List.Forall₂ (fun u p => decoder src u = .ok p) vs ps →
      ∀ src', oneOrMany src' v = .ok ps) ∧
    ((∀ p, decoder src v ≠ .ok p) →
      (∀ vs ps, v = .list vs → ¬ List.Forall₂ (fun u p => decoder src u = .ok p) vs ps) →
      ∀ src', oneOrMany src' v = .error (.noVariant "OneOrMany")) ∧
    ∀ src' n p, decoder src' n = .ok p ↔
      (Decoder.record (fields oneOrMany) src' n).map (ofValues oneOrMany) = .ok p := by
  have hread : ∀ src' : Source, (src' = .stream && !v.readable) = false := by simp [hv]
  have hheldsrc : Source.held ≠ .toml := by decide
  have hheld : ∀ {p}, decoder .held v = .ok p ↔ decoder src v = .ok p :=
    ⟨decoder_transfer hheldsrc hv, decoder_transfer hsrc hv⟩
  have hmany : ∀ {ps}, decoder.list .held v = .ok ps ↔
      ∃ vs, v = .list vs ∧ List.Forall₂ (fun u p => decoder src u = .ok p) vs ps := by
    intro ps
    rw [Document.Decoder.list_eq_ok_iff]
    refine exists_congr fun vs => and_congr_right ?_
    rintro rfl
    have hitem : ∀ u ∈ vs, u.readable = true := fun u hu => Node.readable_of_mem_list hv hu
    constructor
    · intro h
      exact ((List.forall₂_and_left _ _).mpr ⟨hitem, h⟩).imp fun u p ⟨hu, hp⟩ =>
        decoder_transfer hheldsrc hu hp
    · intro h
      exact ((List.forall₂_and_left _ _).mpr ⟨hitem, h⟩).imp fun u p ⟨hu, hp⟩ =>
        decoder_transfer hsrc hu hp
  have hok : ∀ {src' ps}, oneOrMany src' v = .ok ps ↔
      (∃ p, decoder .held v = .ok p ∧ ps = [p]) ∨ decoder.list .held v = .ok ps := by
    intro src' ps
    rw [oneOrMany, oneOrManyOf_eq_ok_iff fun _ _ _ => isNode_of_decoder, and_iff_right (hread src')]
  refine ⟨fun p ps hp => ?_, fun p hp src' => ?_, fun vs ps hvs hps src' => ?_,
    fun hone hlist src' => ?_, fun _ _ _ => decoder_eq_ok_iff⟩
  · exact list_ne_ok (fun _ _ _ => isNode_of_decoder) (isNode_of_decoder hp)
  · exact hok.mpr (.inl ⟨p, hheld.mpr hp, rfl⟩)
  · exact hok.mpr (.inr (hmany.mpr ⟨vs, hvs, hps⟩))
  · refine oneOrManyOf_eq_error (hread src') (Document.exists_error fun p hp => ?_)
      (Document.exists_error fun ps hps => ?_)
    · exact hone p (hheld.mp hp)
    · obtain ⟨vs, hvs, hitems⟩ := hmany.mp hps
      exact hlist vs ps hvs hitems

/-- A list that is one node, a list of two nodes of which one is a list, and a list of neither. -/
theorem oneOrMany_never_misread_lists :
    let leaf (column : String) : Predicate := ⟨⟨column, none, .eq, false, false⟩, [], []⟩
    let one : Node := .list [.text "a"]
    let many : Node := .list [.record [("column", .text "b")], one]
    oneOrMany .stream one = .ok [leaf "a"] ∧
      oneOrMany .stream many = .ok [leaf "b", leaf "a"] ∧
      oneOrMany .stream (.list [one, .null]) = .error (.noVariant "OneOrMany") := by
  intro leaf one many
  have hsrc : Source.value ≠ .toml := by decide
  obtain ⟨-, hone, -⟩ := oneOrMany_never_misread hsrc (v := one) (by decide)
  obtain ⟨-, -, hmany, -⟩ := oneOrMany_never_misread hsrc (v := many) (by decide)
  obtain ⟨-, -, -, hother, -⟩ :=
    oneOrMany_never_misread hsrc (v := .list [one, .null]) (by decide)
  refine ⟨hone (leaf "a") rfl .stream, ?_,
    hother (fun p hp => ?_) (fun vs ps hvs hps => ?_) .stream⟩
  · exact hmany _ [leaf "b", leaf "a"] rfl (.cons rfl (.cons rfl .nil)) .stream
  · cases hp
  · cases hvs
    rcases hps with _ | ⟨_, _ | ⟨hnull, _⟩⟩
    cases hnull

end Predicate

end ParamSql
