import ParamSql.Proofs.Document.Filters
import ParamSql.Proofs.Document.OneOrMany

/-!
# Unknown operators in documents

A document that would be read with a known operator in some place is refused with an unknown one
there.  The operator is named in the error only if it is that of the outermost node.  Below, where
one node or a list of nodes may stand, both are tried, and what they object to is forgotten; all
that is said is that neither fits.  The same errors come of the filters of indexes and statements.

## Main definitions

* `Predicate.OperatorPlace`: the place of an operator in the document of a predicate, under any
  number of `and` and `or`
* `Predicate.operatorError`: what is said of an unknown operator

## Main results

* `Predicate.exists_operatorPlace`: every operator of an encoded predicate has a place
* `Predicate.decoder_unknown_operator`: what is said of it in a predicate
* `Predicate.message_operatorError`: where it is named
* `Predicate.unknown_operator_refused`: predicates, indexes and statements
-/

namespace ParamSql

open Document (Node Decoder Source DecodeError Field)
open Document.Decoder (Passes passes_record passes_list)

namespace Predicate

/-! ## Nodes -/

section Nodes

variable {n : Node} {depth : Nat} {src : Source}

/-- What is written for one predicate is not read as a list of predicates. -/
theorem exists_list_error (h : IsNode n) : ∃ e, (decoderAt depth).list src n = .error e :=
  Document.exists_error fun _ => list_ne_ok (fun _ _ _ => isNode_of_decoderAt) h

/-- A list of what is written for predicates is not read as one predicate. -/
theorem exists_error_of_isNode (h : IsNode n) (ns : List Node) :
    ∃ e, decoderAt depth src (.list (n :: ns)) = .error e := by
  cases depth with
  | zero => exact ⟨_, rfl⟩
  | succ depth => cases n <;> first | exact ⟨_, rfl⟩ | cases h

end Nodes

/-! ## Places -/

/-- The place belongs to the field of that number, in what is written for one predicate. -/
structure AtField (i : Nat) (place : Document.Place) : Prop where
  index : place.index? (fields oneOrMany) = some i
  isNode : ∀ n, IsNode (place.fill n)

/-- The place of an operator in the document of a predicate. -/
inductive OperatorPlace where
  /-- the operator of the outermost node -/
  | own (place : Document.Place)
  /-- an operator in the one node that stands in the place -/
  | under (place : Document.Place) (inner : OperatorPlace)
  /-- an operator in one of the nodes of the list that stands in the place -/
  | among (place : Document.Place) (before : List Node) (inner : OperatorPlace) (after : List Node)

namespace OperatorPlace

/-- The document with a node in the place. -/
def fill : OperatorPlace → Node → Node
  | own place, n => place.fill n
  | under place inner, n => place.fill (inner.fill n)
  | among place before inner after, n => place.fill (.list (before ++ inner.fill n :: after))

/-- How many nodes lie around the node whose operator it is. -/
def depth : OperatorPlace → Nat
  | own _ => 0
  | under _ inner => inner.depth + 1
  | among _ _ inner _ => inner.depth + 1

/-- The operator is the third field of a node, and further nodes stand in the sixth and the seventh
one, `and` and `or`. -/
def Proper : OperatorPlace → Prop
  | own place => AtField 2 place
  | under place inner => (AtField 5 place ∨ AtField 6 place) ∧ inner.Proper
  | among place before inner _ =>
    (AtField 5 place ∨ AtField 6 place) ∧ (∀ n ∈ before, IsNode n) ∧ inner.Proper

theorem Proper.isNode {place : OperatorPlace} (h : place.Proper) (n : Node) :
    IsNode (place.fill n) := by
  cases place with
  | own place => exact AtField.isNode h n
  | under place inner => exact h.1.elim (·.isNode _) (·.isNode _)
  | among place before inner after => exact h.1.elim (·.isNode _) (·.isNode _)

theorem alike_fill {n m : Node} (h : n.Alike m) (place : OperatorPlace) :
    (place.fill n).Alike (place.fill m) := by
  induction place with
  | own place => exact h.fill place
  | under place inner ih => exact ih.fill place
  | among place before inner after ih => exact (ih.list before after).fill place

end OperatorPlace

theorem isNode_encode (p : Predicate) : IsNode p.encode := by
  obtain ⟨leaf, ands, ors⟩ := p
  rw [encode]
  trivial

/-- A list that a node is in, with the node left open. -/
theorem listMember_eq_of_mem (key : String) {q : Predicate} {ps : List Predicate} (h : q ∈ ps) :
    ∃ before after, (∀ n ∈ before, IsNode n) ∧
      Document.listMember key (ps.map encode) = [(key, .list (before ++ q.encode :: after))] := by
  obtain ⟨front, back, rfl⟩ := List.append_of_mem h
  refine ⟨front.map encode, back.map encode,
    List.forall_mem_map.mpr fun p _ => p.isNode_encode, ?_⟩
  cases front <;> simp [Document.listMember]

/-- Every operator of an encoded predicate has a place. -/
theorem exists_operatorPlace {p q : Predicate} (h : q ∈ p.nodes) :
    ∃ place : OperatorPlace, place.Proper ∧ place.fill (.text q.leaf.op.symbol) = p.encode := by
  induction p using Predicate.induction with
  | node leaf ands ors ihands ihors =>
    let front : List (String × Node) :=
      ("column", .text leaf.column) :: Document.textMember "table" leaf.table
    let flags : List (String × Node) := [("lower", .bool leaf.lower), ("upper", .bool leaf.upper)]
    let back (key : String) (ps : List Predicate) : List (String × Node) :=
      Document.listMember key (ps.map encode)
    have hencode : encode ⟨leaf, ands, ors⟩ = .record (front ++ ("op", leaf.op.encode) ::
        (flags ++ (back "and" ands ++ back "or" ors))) := by
      rw [encode_mk]
      simp [front, flags, back]
    rw [nodes_mk, List.mem_cons, List.mem_append] at h
    rcases h with rfl | h | h
    · refine ⟨.own (.member front "op" (flags ++ (back "and" ands ++ back "or" ors))),
        ⟨rfl, fun _ => trivial⟩, hencode.symm⟩
    · obtain ⟨r, hr, hq⟩ := List.mem_flatMap.mp h
      obtain ⟨place, hplace, hfill⟩ := ihands r hr hq
      obtain ⟨before, after, hbefore, hlist⟩ := listMember_eq_of_mem "and" hr
      refine ⟨.among (.member (front ++ ("op", leaf.op.encode) :: flags) "and" (back "or" ors))
        before place after, ⟨.inl ⟨rfl, fun _ => trivial⟩, hbefore, hplace⟩, ?_⟩
      simp [OperatorPlace.fill, Document.Place.fill, hfill, hencode, back, hlist]
    · obtain ⟨r, hr, hq⟩ := List.mem_flatMap.mp h
      obtain ⟨place, hplace, hfill⟩ := ihors r hr hq
      obtain ⟨before, after, hbefore, hlist⟩ := listMember_eq_of_mem "or" hr
      refine ⟨.among
        (.member (front ++ ("op", leaf.op.encode) :: (flags ++ back "and" ands)) "or" [])
        before place after, ⟨.inr ⟨rfl, fun _ => trivial⟩, hbefore, hplace⟩, ?_⟩
      simp [OperatorPlace.fill, Document.Place.fill, hfill, hencode, back, hlist]

/-! ## One node or a list of nodes -/

/-- What is said of an unknown operator, by how many nodes lie around its node. -/
def operatorError : Nat → String → DecodeError
  | 0, s => .rejected (.invalidComparison s)
  | _ + 1, _ => .noVariant "OneOrMany"

section Branches

variable {depth : Nat} {src : Source} {n m : Node} {ps : List Predicate}

/-- What is wrong with the one node that stands under `and` or `or` is not said. -/
theorem oneOrManyOf_fails_one (hn : IsNode n) (hm : IsNode m) (halike : n.Alike m)
    (hfail : ∀ p, decoderAt depth .held n = .ok p → ∃ e, decoderAt depth .held m = .error e)
    (h : oneOrManyOf (decoderAt depth) src n = .ok ps) :
    oneOrManyOf (decoderAt depth) src m = .error (.noVariant "OneOrMany") := by
  obtain ⟨hread, ⟨p, hp, -⟩ | hlist⟩ :=
    (oneOrManyOf_eq_ok_iff fun _ _ _ => isNode_of_decoderAt).mp h
  · rw [halike.readable] at hread
    exact oneOrManyOf_eq_error hread (hfail p hp) (exists_list_error hm)
  · obtain ⟨e, he⟩ : ∃ e, (decoderAt depth).list .held n = .error e := exists_list_error hn
    rw [he] at hlist
    cases hlist

/-- What is wrong with one of the nodes that are listed under `and` or `or` is not said. -/
theorem oneOrManyOf_fails_many {before after : List Node} (hbefore : ∀ u ∈ before, IsNode u)
    (hn : IsNode n) (hm : IsNode m) (halike : n.Alike m)
    (hfail : ∀ p, decoderAt depth .held n = .ok p → ∃ e, decoderAt depth .held m = .error e)
    (h : oneOrManyOf (decoderAt depth) src (.list (before ++ n :: after)) = .ok ps) :
    oneOrManyOf (decoderAt depth) src (.list (before ++ m :: after)) =
      .error (.noVariant "OneOrMany") := by
  have hhead : ∀ {u : Node}, IsNode u →
      ∃ e, decoderAt depth .held (.list (before ++ u :: after)) = .error e := by
    intro u hu
    cases before with
    | nil => exact exists_error_of_isNode hu after
    | cons v before => exact exists_error_of_isNode (hbefore v List.mem_cons_self) _
  obtain ⟨hread, ⟨p, hp, -⟩ | hlist⟩ :=
    (oneOrManyOf_eq_ok_iff fun _ _ _ => isNode_of_decoderAt).mp h
  · obtain ⟨e, he⟩ := hhead hn
    rw [he] at hp
    cases hp
  · obtain ⟨⟨p, hp⟩, hitem⟩ := passes_list (decoderAt depth) before after halike hlist
    obtain ⟨e, he⟩ := hfail p hp
    rw [(halike.list before after).readable] at hread
    exact oneOrManyOf_eq_error hread (hhead hm) ⟨e, hitem e he⟩

end Branches

/-! ## Predicates -/

section Fields

variable {nodes : Decoder (List Predicate)} {place : Document.Place} {src : Source}

/-- A field of a predicate, at a place in what is written for it. -/
theorem passes_field {f : Field} {i : Nat} (h : AtField i place)
    (hf : (fields nodes)[i]? = some f) :
    Passes (fun src n => (Decoder.record (fields nodes) src n).map (ofValues nodes)) src
      f.decode src place.fill := by
  have hindex : place.index? (fields nodes) = some i := by
    have h := h.index
    cases place with
    | member before key after => exact h
    | item before after => exact h
  exact (passes_record hindex hf).map _

theorem passes_branch (h : AtField 5 place ∨ AtField 6 place) :
    Passes (fun src n => (Decoder.record (fields nodes) src n).map (ofValues nodes)) src
      nodes src place.fill :=
  h.elim (fun h => passes_field h rfl) (fun h => passes_field h rfl)

end Fields

/-- **An unknown operator** is named if it is that of the outermost node, and else not. -/
theorem decoderAt_unknown_operator {place : OperatorPlace} (hplace : place.Proper) {c : Comparison}
    {s : String} (hs : Comparison.ofSymbol? s = none) {depth : Nat} {src : Source} {p : Predicate}
    (h : decoderAt depth src (place.fill (.text c.symbol)) = .ok p) :
    decoderAt depth src (place.fill (.text s)) = .error (operatorError place.depth s) := by
  have halike := Node.alike_text c.symbol s
  -- on the nodes around: an error inside is an error of one way of reading, and the other one
  -- fails because a single node and a list of nodes are never read as each other
  induction place generalizing depth src p with
  | own place =>
    cases depth with
    | zero => cases h
    | succ depth =>
      have hop : Comparison.decoder src (.text s) = .error (.rejected (.invalidComparison s)) := by
        simp only [Comparison.decoder, Decoder.refine, Decoder.text, hs]
        rfl
      exact (passes_field hplace rfl halike h).2 _ hop
  | under place inner ih =>
    cases depth with
    | zero => cases h
    | succ depth =>
      obtain ⟨hfield, hinner⟩ := hplace
      have hinside := inner.alike_fill halike
      obtain ⟨⟨ps, hps⟩, hfail⟩ := passes_branch hfield hinside h
      exact hfail _ (oneOrManyOf_fails_one (hinner.isNode _) (hinner.isNode _) hinside
        (fun p hp => ⟨_, ih hinner hp⟩) hps)
  | among place before inner after ih =>
    cases depth with
    | zero => cases h
    | succ depth =>
      obtain ⟨hfield, hbefore, hinner⟩ := hplace
      have hinside := inner.alike_fill halike
      obtain ⟨⟨ps, hps⟩, hfail⟩ := passes_branch hfield (hinside.list before after) h
      exact hfail _ (oneOrManyOf_fails_many hbefore (hinner.isNode _) (hinner.isNode _) hinside
        (fun p hp => ⟨_, ih hinner hp⟩) hps)

/-- What is wrong with the operator of a predicate is said of its whole document. -/
theorem decoder_unknown_operator {place : OperatorPlace} (hplace : place.Proper) {c : Comparison}
    {s : String} (hs : Comparison.ofSymbol? s = none) {src : Source} {p : Predicate}
    (h : decoder src (place.fill (.text c.symbol)) = .ok p) :
    decoder src (place.fill (.text s)) = .error (operatorError place.depth s) := by
  rw [decoder] at h ⊢
  rw [(place.alike_fill (Node.alike_text c.symbol s)).depth] at h
  exact decoderAt_unknown_operator hplace hs h

/-- The operator is named in what is said of that of the outermost node only. -/
theorem message_operatorError (k : Nat) (s : String) :
    (∃ before after, (operatorError k s).message =
      before ++ ("Invalid operator: '" ++ s ++ "'") ++ after) ↔ k = 0 := by
  cases k with
  | zero =>
    let rest := ". Expected one of: =, !=, >, >=, <, <="
    have hrest : "'. Expected one of: =, !=, >, >=, <, <=" = "'" ++ rest := rfl
    have hmessage : (operatorError 0 s).message = "Invalid operator: '" ++ s ++ ("'" ++ rest) := by
      rw [← hrest]
      rfl
    refine iff_of_true ⟨"", rest, ?_⟩ rfl
    rw [hmessage, String.empty_append, ← String.append_assoc]
  | succ k =>
    have hquote : '\'' ∉ (operatorError (k + 1) s).message.toList := by
      change '\'' ∉ ("data did not match any variant of untagged enum " ++ "OneOrMany").toList
      decide
    refine ⟨?_, nofun⟩
    rintro ⟨before, after, hmessage⟩
    rw [hmessage] at hquote
    simp at hquote

/-! ## Wherever a predicate is read -/

/-- **A document with an unknown operator is refused** if it would be read with a known one, as a
predicate, as the filter of an index and as that of a statement, and for the same reason.  That
reason names the operator exactly if no node lies around the one whose operator it is. -/
theorem unknown_operator_refused {place : OperatorPlace} (hplace : place.Proper) {s : String}
    (hs : Comparison.ofSymbol? s = none) (c : Comparison) (src : Source) :
    (∀ p, decoder src (place.fill (.text c.symbol)) = .ok p →
      decoder src (place.fill (.text s)) = .error (operatorError place.depth s)) ∧
    (∀ (filter : Document.Place) i, filter.index? Index.fields = some 3 →
      Index.decoder src (filter.fill (place.fill (.text c.symbol))) = .ok i →
        Index.decoder src (filter.fill (place.fill (.text s))) =
          .error (operatorError place.depth s)) ∧
    (∀ fill t, Statement.FilterPlace fill →
      Statement.decoder src (fill (place.fill (.text c.symbol))) = .ok t →
        Statement.decoder src (fill (place.fill (.text s))) =
          .error (operatorError place.depth s)) ∧
    ((∃ before after, (operatorError place.depth s).message =
      before ++ ("Invalid operator: '" ++ s ++ "'") ++ after) ↔ place.depth = 0) := by
  have halike := place.alike_fill (Node.alike_text c.symbol s)
  refine ⟨fun p hp => decoder_unknown_operator hplace hs hp, ?_, ?_, message_operatorError _ s⟩
  · intro filter i hfilter hi
    obtain ⟨⟨p, hp⟩, hfail⟩ := Index.passes_filter hfilter halike hi
    exact hfail _ (decoder_unknown_operator hplace hs hp)
  · intro fill t hfill ht
    obtain ⟨⟨p, hp⟩, hfail⟩ := hfill.passes halike ht
    exact hfail _ (decoder_unknown_operator hplace hs hp)

/-- The operator of a node, and that of a node under its `and`. -/
theorem unknown_operator_refused_like :
    let node (column op : String) (ands : List (String × Node)) : Node :=
      .record ([("column", .text column), ("op", .text op)] ++ ands)
    decoder .stream (node "a" "LIKE" [("and", node "b" "=" [])]) =
        .error (.rejected (.invalidComparison "LIKE")) ∧
      decoder .stream (node "a" "=" [("and", node "b" "LIKE" [])]) =
        .error (.noVariant "OneOrMany") := by
  intro node
  let own (column : String) (ands : List (String × Node)) : OperatorPlace :=
    .own (.member [("column", .text column)] "op" ands)
  have hown : ∀ column ands, (own column ands).Proper := fun _ _ => ⟨rfl, fun _ => trivial⟩
  let inner : OperatorPlace :=
    .under (.member [("column", .text "a"), ("op", .text "=")] "and" []) (own "b" [])
  have hinner : inner.Proper := ⟨.inl ⟨rfl, fun _ => trivial⟩, hown _ _⟩
  have hlike : Comparison.ofSymbol? "LIKE" = none := by decide
  have hread : decoder .stream (node "a" "=" [("and", node "b" "=" [])]) =
      .ok ⟨⟨"a", none, .eq, false, false⟩, [⟨⟨"b", none, .eq, false, false⟩, [], []⟩], []⟩ := by
    rfl
  have houter := unknown_operator_refused (hown "a" [("and", node "b" "=" [])]) hlike .eq .stream
  have hunder := unknown_operator_refused hinner hlike .eq .stream
  exact ⟨houter.1 _ hread, hunder.1 _ hread⟩

/-- A document that is refused for an unknown operator that is not named. -/
theorem unknown_operator_unnamed :
    let doc (op : String) : Node :=
      .record [("column", .text "a"),
        ("and", .record [("column", .text "b"), ("op", .text op)])]
    Comparison.ofSymbol? "LIKE" = none ∧ (∃ p, decoder .value (doc "=") = .ok p) ∧
      ∃ e, decoder .value (doc "LIKE") = .error e ∧
        ¬ ∃ before after,
          e.message = before ++ ("Invalid operator: '" ++ "LIKE" ++ "'") ++ after := by
  intro doc
  refine ⟨by decide, ⟨_, rfl⟩, operatorError 1 "LIKE", rfl, fun hnamed => ?_⟩
  exact absurd ((message_operatorError 1 "LIKE").mp hnamed) Nat.one_ne_zero

end Predicate

end ParamSql
