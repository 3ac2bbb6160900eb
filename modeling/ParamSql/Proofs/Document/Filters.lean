import ParamSql.Document.Schema
import ParamSql.Document.Statement
import ParamSql.Proofs.Document.Places
import ParamSql.Proofs.Document.Roundtrip

/-!
# Filters in documents

A filter stands in the document of an index, of a statement, or of the clauses of a query, which in
turn stand in the document of a statement.  Wherever it stands, what is wrong with it is what is
wrong with the whole.  A statement that is written by key names its kind anywhere among its members;
the others are held back in their order and read when the kind is known.

## Main definitions

* `Statement.FilterField`: the field of each kind of statement that a filter is in
* `Statement.FilterPlace`: the place of a filter in the document of a statement

## Main results

* `Index.passes_filter`, `SelectOptions.passes_filter`
* `Statement.splitKind_exchange`: what is held back may be exchanged
* `Statement.FilterPlace.passes`: statements of all kinds that have a filter
-/

namespace ParamSql

open Document (Node Decoder Source Field)
open Document.Decoder (Passes passes_record passes_option)

/-! ## Indexes and queries -/

section Filters

variable {src : Source} {place : Document.Place}

theorem Index.passes_filter (h : place.index? fields = some 3) :
    Passes decoder src Predicate.decoder src place.fill :=
  ((passes_record h rfl).comp (passes_option Predicate.decoder) id).map _

theorem SelectOptions.passes_filter (h : place.index? fields = some 1) :
    Passes decoder src Predicate.decoder src place.fill :=
  ((passes_record h rfl).comp (passes_option Predicate.decoder) id).map _

end Filters

/-! ## Statements -/

namespace Statement

/-- Where the filter of a statement is: among the fields of its kind, in the field of that number,
which is the filter itself or the clauses of a query around it. -/
inductive FilterField : Kind → List Field → Nat → (Node → Node) → Prop
  | update : FilterField .update
      [name "table", .required "columns" Assignment.decoder.list, filterField] 2 id
  | delete : FilterField .delete [name "table", filterField] 1 id
  | exists : FilterField .exists [name "table", filterField] 1 id
  | createIndex : FilterField .createIndex
      [name "index", name "table", .required "columns" Decoder.text.list, flag "if_not_exists",
        filterField] 4 id
  | select {place : Document.Place} (h : place.index? SelectOptions.fields = some 1) :
      FilterField .select
        [name "table", .required "columns" SelectColumn.decoder.list, optionsField] 2 place.fill
  | createView {place : Document.Place} (h : place.index? SelectOptions.fields = some 1) :
      FilterField .createView
        [name "view", name "table", .required "columns" SelectColumn.decoder.list, optionsField,
          flag "if_not_exists"] 3 place.fill

namespace FilterField

variable {k : Kind} {fs : List Field} {i : Nat} {fill : Node → Node}

theorem alike (h : FilterField k fs i fill) {n m : Node} (hnm : n.Alike m) :
    (fill n).Alike (fill m) := by
  cases h with
  | select => exact hnm.fill _
  | createView => exact hnm.fill _
  | _ => exact hnm

theorem ne_kindKey (h : FilterField k fs i fill) {key : String}
    (hkey : fs.findIdx? (·.accepts key) = some i) : key ≠ kindKey := by
  rintro rfl
  cases h <;> cases hkey

/-- The fields of the kind are those of the body. -/
theorem passes (h : FilterField k fs i fill) {src : Source} (place : Document.Place)
    (hi : place.index? fs = some i) :
    Passes (bodyDecoder k) src Predicate.decoder src (place.fill ∘ fill) := by
  cases h with
  | select h =>
    exact ((passes_record hi rfl).comp (SelectOptions.passes_filter h) (·.fill _)).map _
  | createView h =>
    exact ((passes_record hi rfl).comp (SelectOptions.passes_filter h) (·.fill _)).map _
  | _ => exact ((passes_record hi rfl).comp (passes_option Predicate.decoder) id).map _

end FilterField

/-- The place of a filter in the document of a statement, by key or by position. -/
inductive FilterPlace : (Node → Node) → Prop
  | member {k : Kind} {fs : List Field} {i : Nat} {fill : Node → Node} {key : String}
      (h : FilterField k fs i fill) (hkey : fs.findIdx? (·.accepts key) = some i)
      (before after : List (String × Node)) (hkind : (kindKey, .text k.word) ∈ before ++ after) :
      FilterPlace fun n => .record (before ++ (key, fill n) :: after)
  | item {k : Kind} {fs : List Field} {fill : Node → Node} (before after : List Node)
      (h : FilterField k fs before.length fill) :
      FilterPlace fun n => .list (.text k.word :: (before ++ fill n :: after))

section Kinds

variable {src : Source} {ms before after body : List (String × Node)} {kind : Option Kind}
  {k : Kind} {l : Option Kind} {key : String} {n m : Node}

/-- What is split succeeds member by member. -/
theorem splitKind_cons_eq_ok {result : Option Kind × List (String × Node)}
    (h : splitKind src ((key, n) :: ms) kind = .ok result) :
    (key = kindKey ∧ kind = none ∧
      ∃ k, Kind.decoder src n = .ok k ∧ splitKind src ms (some k) = .ok result) ∨
    (key ≠ kindKey ∧ (src = .stream && !n.readable) = false ∧
      ∃ l body, splitKind src ms kind = .ok (l, body) ∧ result = (l, (key, n) :: body)) := by
  by_cases hn : ∃ u, n = .unlabelled u
  · obtain ⟨u, rfl⟩ := hn
    cases h
  · rw [not_exists] at hn
    rw [splitKind_cons hn] at h
    split at h
    · next hkey =>
      cases kind with
      | some k => cases h
      | none =>
        cases hk : Kind.decoder src n with
        | error e =>
          rw [hk] at h
          cases h
        | ok k =>
          rw [hk] at h
          exact .inl ⟨hkey, rfl, k, rfl, h⟩
    · next hkey =>
      split at h
      · cases h
      · next hread =>
        obtain ⟨⟨l, body⟩, hsplit, rfl⟩ := Document.exists_of_map_eq_ok h
        exact .inr ⟨hkey, Bool.eq_false_of_not_eq_true hread, l, body, hsplit, rfl⟩

/-- A member that is not the kind is held back where it stands. -/
theorem splitKind_exchange (hkey : key ≠ kindKey) (halike : n.Alike m)
    (h : splitKind src (before ++ (key, n) :: after) kind = .ok (l, body)) :
    ∃ front back, body = front ++ (key, n) :: back ∧
      splitKind src (before ++ (key, m) :: after) kind = .ok (l, front ++ (key, m) :: back) := by
  induction before generalizing kind body with
  | nil =>
    obtain ⟨hkind, -⟩ | ⟨-, hread, l, back, hsplit, hresult⟩ := splitKind_cons_eq_ok h
    · exact absurd hkind hkey
    · cases hresult
      refine ⟨[], back, rfl, ?_⟩
      rw [halike.readable] at hread
      rw [List.nil_append, splitKind_cons halike.plain'.ne_unlabelled, if_neg hkey,
        if_neg (by rw [hread]; exact Bool.false_ne_true), hsplit]
      rfl
  | cons u before ih =>
    obtain ⟨key', u⟩ := u
    have hu : ∀ v, u ≠ .unlabelled v := by
      rintro v rfl
      cases h
    rw [List.cons_append] at h
    rw [List.cons_append, splitKind_cons hu]
    -- a member before it names the kind, or is itself held back in front of it
    obtain ⟨hkey', rfl, k, hk, hsplit⟩ | ⟨hkey', hread, l, rest, hsplit, hresult⟩ :=
      splitKind_cons_eq_ok h
    · obtain ⟨front, back, hbody, hexchange⟩ := ih hsplit
      refine ⟨front, back, hbody, ?_⟩
      simp only [hkey', if_true, hk]
      exact hexchange
    · cases hresult
      obtain ⟨front, back, rfl, hexchange⟩ := ih hsplit
      refine ⟨(key', u) :: front, back, rfl, ?_⟩
      rw [if_neg hkey', if_neg (by rw [hread]; exact Bool.false_ne_true), hexchange]
      rfl

/-- A kind that is known stays, and is not named again. -/
theorem splitKind_some_eq_ok (h : splitKind src ms (some k) = .ok (l, body)) :
    l = some k ∧ ∀ m ∈ ms, m.1 ≠ kindKey := by
  induction ms generalizing body with
  | nil =>
    cases h
    exact ⟨rfl, nofun⟩
  | cons m ms ih =>
    obtain ⟨-, hkind, -⟩ | ⟨hkey, -, l, rest, hsplit, hresult⟩ := splitKind_cons_eq_ok h
    · cases hkind
    · cases hresult
      obtain ⟨rfl, hrest⟩ := ih hsplit
      exact ⟨rfl, List.forall_mem_cons.mpr ⟨hkey, hrest⟩⟩

/-- The kind that is found is that of the member that names it. -/
theorem eq_of_splitKind_eq_ok (hk : (kindKey, .text k.word) ∈ ms)
    (h : splitKind src ms none = .ok (l, body)) : l = some k := by
  induction ms generalizing body with
  | nil => cases hk
  | cons m ms ih =>
    obtain ⟨key, n⟩ := m
    obtain ⟨hkey, -, j, hj, hsplit⟩ | ⟨hkey, -, l, rest, hsplit, hresult⟩ :=
      splitKind_cons_eq_ok h
    · obtain ⟨rfl, hrest⟩ := splitKind_some_eq_ok hsplit
      rcases List.mem_cons.mp hk with hk | hk
      · cases hk
        rw [Kind.decoder, Kind.ofWord?_word] at hj
        cases hj
        rfl
      · exact absurd rfl (hrest _ hk)
    · cases hresult
      rcases List.mem_cons.mp hk with hk | hk
      · cases hk
        exact absurd rfl hkey
      · exact ih hk hsplit

end Kinds

theorem FilterPlace.passes {fill : Node → Node} (h : FilterPlace fill) {src : Source} :
    Passes decoder src Predicate.decoder .held fill := by
  intro n m s halike hs
  cases h with
  | @member k fs i fill key h hkey before after hkind =>
    have hinside := h.alike halike
    rw [decoder] at hs
    cases hsplit : splitKind src (before ++ (key, fill n) :: after) none with
    | error e =>
      rw [hsplit] at hs
      cases hs
    | ok result =>
      obtain ⟨l, body⟩ := result
      obtain ⟨front, back, rfl, hexchange⟩ :=
        splitKind_exchange (h.ne_kindKey hkey) hinside hsplit
      have hmem : (kindKey, .text k.word) ∈ before ++ (key, fill n) :: after :=
        List.mem_append.mpr ((List.mem_append.mp hkind).imp_right (List.mem_cons_of_mem _))
      obtain rfl := eq_of_splitKind_eq_ok hmem hsplit
      rw [hsplit] at hs
      obtain ⟨hread, hfail⟩ := h.passes (.member front key back) hkey halike hs
      refine ⟨hread, fun e he => ?_⟩
      rw [decoder, hexchange]
      exact hfail e he
  | @item k fs fill before after h =>
    have hkind : Kind.decoder src (.text k.word) = .ok k := by
      rw [Kind.decoder, Kind.ofWord?_word]
    have hreadable := ((h.alike halike).list before after).readable
    have hitem : ∀ u, decoder src (.list (.text k.word :: (before ++ fill u :: after))) =
        Decoder.held (bodyDecoder k) src (.list (before ++ fill u :: after)) := by
      intro u
      rw [decoder, hkind]
    rw [hitem, Decoder.held] at hs
    split at hs
    · cases hs
    · next hread =>
      obtain ⟨hfilter, hfail⟩ := h.passes (.item before after) rfl halike hs
      refine ⟨hfilter, fun e he => ?_⟩
      rw [hitem, Decoder.held, ← hreadable, if_neg hread]
      exact hfail e he

end Statement

end ParamSql
