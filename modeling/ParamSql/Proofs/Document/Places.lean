import ParamSql.Proofs.Document.Represents
import ParamSql.Proofs.Document.Yields

/-!
# Places in documents

A place is a document with one node left open.  If a document is read, and the node in one field
of a record is then exchanged for one that the field objects to, nothing else is objected to
before, so the record is refused for the same reason.  An objection goes out through records,
conversions and options unchanged; what can be seen from outside of the exchanged node, its
depth and whether it is readable, must be the same.

## Main definitions

* `Document.Place`, `Place.fill`: a member or an item that is left open
* `Place.index?`: the field of a record that the place is for
* `Node.Alike`: nodes that can be exchanged without being seen from outside
* `Decoder.Passes`: what one decoder objects to at a place is what another one objects to there

## Main results

* `Decoder.passes_record`: a field of a record
* `Decoder.passes_list`: an item of a list
* `Decoder.Passes.comp`, `Decoder.passes_option`: places within places, and options
-/

namespace ParamSql.Document

/-! ## Places -/

/-- A record with one value left open, or a list with one item left open. -/
inductive Place where
  | member (before : List (String × Node)) (key : String) (after : List (String × Node))
  | item (before after : List Node)

namespace Place

/-- The document with a node in the place. -/
def fill : Place → Node → Node
  | member before key after, n => .record (before ++ (key, n) :: after)
  | item before after, n => .list (before ++ n :: after)

/-- The number of the field that the node in the place is read into. -/
def index? (fs : List Field) : Place → Option Nat
  | member _ key _ => fs.findIdx? (·.accepts key)
  | item before _ => some before.length

end Place

/-! ## Nodes that are alike -/

namespace Node

/-- A text or a container: not `null`, and no fault as such. -/
def IsPlain : Node → Prop
  | .text _ => True
  | .list _ => True
  | .record _ => True
  | _ => False

/-- The nodes cannot be told apart without looking into them. -/
structure Alike (n m : Node) : Prop where
  plain : n.IsPlain
  plain' : m.IsPlain
  depth : n.depth = m.depth
  readable : n.readable = m.readable

theorem alike_text (s t : String) : Alike (.text s) (.text t) := ⟨trivial, trivial, rfl, rfl⟩

variable {n m : Node}

theorem IsPlain.ne_unlabelled (h : n.IsPlain) : ∀ u, n ≠ .unlabelled u := by
  rintro u rfl
  exact h

theorem Alike.list (h : Alike n m) (before after : List Node) :
    Alike (.list (before ++ n :: after)) (.list (before ++ m :: after)) := by
  refine ⟨trivial, trivial, ?_, ?_⟩
  · rw [Node.depth, Node.depth]
    congr 1
    induction before with
    | nil => simp only [List.nil_append, depthOfAll, h.depth]
    | cons u before ih => simp only [List.cons_append, depthOfAll, ih]
  · rw [Node.readable, Node.readable]
    induction before with
    | nil => simp only [List.nil_append, allReadable, h.readable]
    | cons u before ih => simp only [List.cons_append, allReadable, ih]

theorem Alike.record (h : Alike n m) (before : List (String × Node)) (key : String)
    (after : List (String × Node)) :
    Alike (.record (before ++ (key, n) :: after)) (.record (before ++ (key, m) :: after)) := by
  refine ⟨trivial, trivial, ?_, ?_⟩
  · rw [Node.depth, Node.depth]
    congr 1
    induction before with
    | nil => simp only [List.nil_append, depthOfMembers, h.depth]
    | cons u before ih => simp only [List.cons_append, depthOfMembers, ih]
  · rw [Node.readable, Node.readable]
    simp only [membersReadable_append, membersReadable, h.readable]

theorem Alike.fill (h : Alike n m) (place : Place) : Alike (place.fill n) (place.fill m) := by
  cases place with
  | member before key after => exact h.record before key after
  | item before after => exact h.list before after

end Node

/-! ## Fields of records -/

section Fields

variable {fs : List Field} {f : Field} {i : Nat} {src : Source} {n m : Node} {e : DecodeError}

namespace Draft

/-- A member is read by the field that its key finds, and refused as the field refuses it. -/
theorem member?_of_findIdx? {key : String} (hi : fs.findIdx? (·.accepts key) = some i)
    (hf : fs[i]? = some f) (d : Draft fs) :
    ∃ r, member? fs src key n d = some r ∧ ∀ d', r = .ok d' →
      (∃ v, f.decode src n = .ok v) ∧
        ∀ m e, f.decode src m = .error e → member? fs src key m d = some (.error e) := by
  induction fs generalizing i with
  | nil => cases hi
  | cons g fs ih =>
    obtain ⟨found, rest⟩ := d
    rw [List.findIdx?_cons] at hi
    cases hkey : g.accepts key with
    | true =>
      rw [hkey, if_pos rfl] at hi
      cases hi
      obtain rfl : g = f := Option.some.inj hf
      simp only [member?, hkey, if_true]
      cases found with
      | some _ => exact ⟨_, rfl, fun _ hd => by cases hd⟩
      | none =>
        cases hn : g.decode src n with
        | error e => exact ⟨_, rfl, fun _ hd => by cases hd⟩
        | ok v => exact ⟨_, rfl, fun _ _ => ⟨⟨v, rfl⟩, fun m e he => by rw [he]⟩⟩
    | false =>
      rw [hkey, if_neg Bool.false_ne_true] at hi
      obtain ⟨j, hj, rfl⟩ := Option.map_eq_some_iff.mp hi
      obtain ⟨r, hr, hok⟩ := ih hj hf rest
      simp only [member?, hkey, Bool.false_eq_true, if_false, hr]
      refine ⟨_, rfl, fun d' hd' => ?_⟩
      obtain ⟨rest', hrest, -⟩ := exists_of_map_eq_ok hd'
      obtain ⟨hread, hfail⟩ := hok rest' hrest
      exact ⟨hread, fun m e he => by rw [hfail m e he]; rfl⟩

/-- Members are read one after the other. -/
theorem members_append (ms ns : List (String × Node)) (d : Draft fs) :
    members fs src (ms ++ ns) d =
      match members fs src ms d with
      | .error e => .error e
      | .ok d => members fs src ns d := by
  induction ms generalizing d with
  | nil => rfl
  | cons m ms ih =>
    obtain ⟨key, n⟩ := m
    by_cases hn : ∃ u, n = .unlabelled u
    · obtain ⟨u, rfl⟩ := hn
      rfl
    · rw [not_exists] at hn
      rw [List.cons_append, members_step hn, members_step hn]
      cases member? fs src key n d with
      | none =>
        simp only [ih]
        split <;> rfl
      | some r =>
        cases r with
        | error e => rfl
        | ok d => exact ih d

end Draft

theorem keyed_fails {before after : List (String × Node)} {key : String} {vs : Values fs}
    (hi : fs.findIdx? (·.accepts key) = some i) (hf : fs[i]? = some f) (hn : n.IsPlain)
    (h : keyed fs src (before ++ (key, n) :: after) = .ok vs) :
    (∃ v, f.decode src n = .ok v) ∧ ∀ m e, m.IsPlain → f.decode src m = .error e →
      keyed fs src (before ++ (key, m) :: after) = .error e := by
  -- the members before the place leave one draft, whatever stands in the place
  rw [keyed, Draft.members_append] at h
  cases hbefore : Draft.members fs src before (Draft.empty fs) with
  | error e =>
    rw [hbefore] at h
    cases h
  | ok d =>
    obtain ⟨r, hr, hok⟩ : ∃ r, Draft.member? fs src key n d = some r ∧ _ :=
      Draft.member?_of_findIdx? hi hf d
    rw [hbefore] at h
    simp only [Draft.members_step hn.ne_unlabelled, hr] at h
    cases r with
    | error e => cases h
    | ok d' =>
      obtain ⟨hread, hfail⟩ := hok d' rfl
      refine ⟨hread, fun m e hm he => ?_⟩
      rw [keyed, Draft.members_append, hbefore]
      simp only [Draft.members_step hm.ne_unlabelled, hfail m e he]

theorem positional_fails {before after : List Node} {vs : Values fs}
    (hf : fs[before.length]? = some f)
    (h : positional fs src (before ++ n :: after) = .ok vs) :
    (∃ v, f.decode src n = .ok v) ∧ ∀ m e, f.decode src m = .error e →
      positional fs src (before ++ m :: after) = .error e := by
  induction before generalizing fs with
  | nil =>
    cases fs with
    | nil => cases hf
    | cons g fs =>
      obtain rfl : g = f := Option.some.inj hf
      rw [List.nil_append, positional] at h
      cases hn : g.decode src n with
      | error e =>
        rw [hn] at h
        cases h
      | ok v => exact ⟨⟨v, rfl⟩, fun m e he => by rw [List.nil_append, positional, he]⟩
  | cons u before ih =>
    cases fs with
    | nil => cases hf
    | cons g fs =>
      rw [List.cons_append, positional] at h
      cases hu : g.decode src u with
      | error e =>
        rw [hu] at h
        cases h
      | ok w =>
        rw [hu] at h
        obtain ⟨ws, hws, -⟩ := exists_of_map_eq_ok h
        obtain ⟨hread, hfail⟩ := ih hf hws
        refine ⟨hread, fun m e he => ?_⟩
        rw [List.cons_append, positional, hu]
        simp only [hfail m e he]
        rfl

end Fields

/-! ## Objections that are passed on -/

namespace Decoder

variable {α β γ : Type} {src src' src'' : Source}

/-- Around nodes that are alike, `outer` reads a document only if `inner` reads what is in the
place, and objects to it as `inner` does. -/
def Passes (outer : Decoder α) (src : Source) (inner : Decoder β) (src' : Source)
    (fill : Node → Node) : Prop :=
  ∀ ⦃n m a⦄, n.Alike m → outer src (fill n) = .ok a →
    (∃ b, inner src' n = .ok b) ∧
      ∀ e, inner src' m = .error e → outer src (fill m) = .error e

/-- A record is read field by field, and refused for what is wrong with the first that is not. -/
theorem passes_record {fs : List Field} {f : Field} {i : Nat} {place : Place}
    (hi : place.index? fs = some i) (hf : fs[i]? = some f) :
    Passes (record fs) src f.decode src place.fill := by
  intro n m vs halike h
  cases place with
  | member before key after =>
    obtain ⟨hread, hfail⟩ := keyed_fails hi hf halike.plain h
    exact ⟨hread, fun e he => hfail m e halike.plain' he⟩
  | item before after =>
    cases hi
    obtain ⟨hread, hfail⟩ := positional_fails hf h
    exact ⟨hread, fun e he => hfail m e he⟩

/-- An item of a list is objected to as such, if nothing is wrong with those before it. -/
theorem items_fails {d : Decoder α} {before after : List Node} {n : Node} {as : List α}
    (h : items d src (before ++ n :: after) = .ok as) :
    (∃ a, d src n = .ok a) ∧ ∀ m e, d src m = .error e →
      items d src (before ++ m :: after) = .error e := by
  induction before generalizing as with
  | nil =>
    rw [List.nil_append, items] at h
    cases hn : d src n with
    | error e =>
      rw [hn] at h
      cases h
    | ok a => exact ⟨⟨a, rfl⟩, fun m e he => by rw [List.nil_append, items, he]⟩
  | cons u before ih =>
    rw [List.cons_append, items] at h
    cases hu : d src u with
    | error e =>
      rw [hu] at h
      cases h
    | ok a =>
      rw [hu] at h
      obtain ⟨rest, hrest, -⟩ := exists_of_map_eq_ok h
      obtain ⟨hread, hfail⟩ := ih hrest
      refine ⟨hread, fun m e he => ?_⟩
      rw [List.cons_append, items, hu]
      simp only [hfail m e he]
      rfl

/-- A list is read item by item, and refused for what is wrong with the first that is not. -/
theorem passes_list (d : Decoder α) (before after : List Node) :
    Passes d.list src d src (Place.item before after).fill := by
  intro n m as _ h
  obtain ⟨hread, hfail⟩ := items_fails h
  exact ⟨hread, fun e he => hfail m e he⟩

theorem passes_option (d : Decoder α) : Passes d.option src d src id := by
  have hoption : ∀ {n : Node}, n.IsPlain → d.option src n = (d src n).map some := by
    intro n hn
    cases n <;> first | rfl | cases hn
  intro n m o halike ho
  rw [id, hoption halike.plain] at ho
  obtain ⟨a, ha, -⟩ := exists_of_map_eq_ok ho
  exact ⟨⟨a, ha⟩, fun e he => by rw [id, hoption halike.plain', he]; rfl⟩

namespace Passes

variable {outer : Decoder α} {mid : Decoder β} {inner : Decoder γ} {fill fill' : Node → Node}

/-- A place within a place. -/
theorem comp (h : Passes outer src mid src' fill) (h' : Passes mid src' inner src'' fill')
    (halike : ∀ {n m : Node}, n.Alike m → (fill' n).Alike (fill' m)) :
    Passes outer src inner src'' (fill ∘ fill') := by
  intro n m a hnm ha
  obtain ⟨⟨b, hb⟩, hfail⟩ := h (halike hnm) ha
  obtain ⟨hread, hfail'⟩ := h' hnm hb
  exact ⟨hread, fun e he => hfail e (hfail' e he)⟩

protected theorem map (h : Passes outer src inner src' fill) (f : α → β) :
    Passes (fun src n => (outer src n).map f) src inner src' fill := by
  intro n m b hnm hb
  obtain ⟨a, ha, -⟩ := exists_of_map_eq_ok hb
  obtain ⟨hread, hfail⟩ := h hnm ha
  exact ⟨hread, fun e he => by simp only [hfail e he]; rfl⟩

end Passes

end Decoder

end ParamSql.Document
