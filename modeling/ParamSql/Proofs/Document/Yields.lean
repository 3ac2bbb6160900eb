import ParamSql.Proofs.Document.Numbers
import ParamSql.Proofs.Document.Represents

/-!
# What decoders read off the numbers of a document

A property that a decoder gives its values, as long as the numbers of the tree are those of a
document, is passed on by the ways of putting decoders together.  A record has it from one of
its fields: the field is read off a member, off an item of a list, or stands for its default.

## Main definitions

* `Document.Yields d P`: what the decoder reads off such a tree has the property
* `Document.Component fs Q R`: one field of a record and the property that it yields

## Main results

* `Document.Yields.list`, `.option`, `.held`, `.map`, `.refine`: one lemma per way of putting
  decoders together
* `Document.Component.record`: a record yields what one of its fields yields
-/

namespace ParamSql.Document

/-- What the decoder reads off a tree with the numbers of a document has the property. -/
def Yields {α : Type} (d : Decoder α) (P : α → Prop) : Prop :=
  ∀ src n a, n.Numeric → d src n = .ok a → P a

/-- A result that is converted further is a result of what came before. -/
theorem exists_of_map_eq_ok {ε α β : Type} {f : α → β} {x : Except ε α} {b : β}
    (h : x.map f = .ok b) : ∃ a, x = .ok a ∧ f a = b := by
  cases x with
  | error e => cases h
  | ok a =>
    cases h
    exact ⟨a, rfl, rfl⟩

namespace Yields

variable {α β : Type} {d : Decoder α} {P : α → Prop}

protected theorem map (h : Yields d P) {f : α → β} {Q : β → Prop} (hf : ∀ a, P a → Q (f a)) :
    Yields (fun src n => (d src n).map f) Q := by
  intro src n b hn hb
  obtain ⟨a, ha, rfl⟩ := exists_of_map_eq_ok hb
  exact hf a (h src n a hn ha)

protected theorem refine (h : Yields d P) {convert : α → Except QueryError β} {Q : β → Prop}
    (hconvert : ∀ a b, P a → convert a = .ok b → Q b) : Yields (d.refine convert) Q := by
  intro src n b hn hb
  rw [Decoder.refine] at hb
  split at hb
  · cases hb
  · next a ha =>
    cases hc : convert a with
    | error e =>
      rw [hc] at hb
      cases hb
    | ok c =>
      rw [hc] at hb
      cases hb
      exact hconvert a b (h src n a hn ha) hc

protected theorem held (h : Yields d P) : Yields d.held P := by
  intro src n a hn ha
  rw [Decoder.held] at ha
  split at ha
  · cases ha
  · exact h .held n a hn ha

protected theorem option (h : Yields d P) : Yields d.option (fun o => ∀ a ∈ o, P a) := by
  intro src n o hn ho
  cases n with
  | null =>
    cases ho
    intro a ha
    cases ha
  | _ =>
    rw [Decoder.option] at ho
    · obtain ⟨a, ha, rfl⟩ := exists_of_map_eq_ok ho
      rintro b ⟨⟩
      exact h src _ a hn ha
    · intro hnull
      cases hnull

theorem items (h : Yields d P) {src : Source} {ns : List Node} (hns : ∀ n ∈ ns, n.Numeric)
    {as : List α} (has : Decoder.items d src ns = .ok as) : ∀ a ∈ as, P a := by
  induction ns generalizing as with
  | nil =>
    cases has
    nofun
  | cons n ns ih =>
    obtain ⟨hn, hns⟩ := List.forall_mem_cons.mp hns
    rw [Decoder.items] at has
    split at has
    · cases has
    · next a ha =>
      obtain ⟨rest, hrest, rfl⟩ := exists_of_map_eq_ok has
      exact List.forall_mem_cons.mpr ⟨h src n a hn ha, ih hns hrest⟩

protected theorem list (h : Yields d P) : Yields d.list (fun as => ∀ a ∈ as, P a) := by
  intro src n as hn has
  cases hn with
  | list hns => exact h.items hns has
  | marred n => cases n <;> cases has
  | _ => cases has

end Yields

/-! ## Records -/

namespace Draft

variable {f : Field} {fs : List Field} {src : Source} {key : String} {n : Node}
  {found : Option f.Value} {rest : Draft fs} {d : Draft (f :: fs)} {vs : Values (f :: fs)}

/-- A member goes to the first field, which is still open then, or to a later one. -/
theorem member?_cons_eq_ok (h : member? (f :: fs) src key n (cons found rest) = some (.ok d)) :
    (∃ v, f.decode src n = .ok v ∧ d = cons (some v) rest) ∨
      ∃ rest', member? fs src key n rest = some (.ok rest') ∧ d = cons found rest' := by
  simp only [cons, member?] at h
  split at h
  · split at h
    · cases h
    · split at h
      · cases h
      · next v hv =>
        cases h
        exact .inl ⟨v, hv, rfl⟩
  · obtain ⟨result, hresult, hmap⟩ := Option.map_eq_some_iff.mp h
    obtain ⟨rest', rfl, rfl⟩ := exists_of_map_eq_ok hmap
    exact .inr ⟨rest', hresult, rfl⟩

/-- The first value was found or is the default, and the others are filled in. -/
theorem finish_cons_eq_ok (h : finish (f :: fs) (cons found rest) = .ok vs) :
    found.or f.default = some vs.1 ∧ finish fs rest = .ok vs.2 := by
  simp only [cons, finish] at h
  split at h
  · obtain ⟨ws, hws, rfl⟩ := exists_of_map_eq_ok h
    exact ⟨rfl, hws⟩
  · next v hv =>
    obtain ⟨ws, hws, rfl⟩ := exists_of_map_eq_ok h
    exact ⟨hv, hws⟩
  · cases h

end Draft

/-- The first value is read off the first item, or is the default when there are no more. -/
theorem positional_cons_eq_ok {f : Field} {fs : List Field} {src : Source} {ns : List Node}
    {vs : Values (f :: fs)} (h : positional (f :: fs) src ns = .ok vs) :
    (f.default = some vs.1 ∨ ∃ n ∈ ns, f.decode src n = .ok vs.1) ∧
      positional fs src ns.tail = .ok vs.2 := by
  cases ns with
  | nil =>
    rw [positional] at h
    split at h
    · next v hv =>
      obtain ⟨ws, hws, rfl⟩ := exists_of_map_eq_ok h
      exact ⟨.inl hv, hws⟩
    · cases h
  | cons n ns =>
    rw [positional] at h
    split at h
    · cases h
    · next v hv =>
      obtain ⟨ws, hws, rfl⟩ := exists_of_map_eq_ok h
      exact ⟨.inr ⟨n, List.mem_cons_self, hv⟩, hws⟩

/-- One field of a record, with a property of what it yields: read as a property of the values
of all fields, and of what was found of them so far. -/
inductive Component : (fs : List Field) → (Values fs → Prop) → (Draft fs → Prop) → Prop
  | here {f : Field} {fs : List Field} {P : f.Value → Prop} (hdecode : Yields f.decode P)
      (hdefault : ∀ v ∈ f.default, P v) :
      Component (f :: fs) (fun vs => P vs.1) (fun d => ∀ v ∈ d.1, P v)
  | there {f : Field} {fs : List Field} {Q : Values fs → Prop} {R : Draft fs → Prop}
      (h : Component fs Q R) : Component (f :: fs) (fun vs => Q vs.2) (fun d => R d.2)

namespace Component

section Fields

variable {α : Type} {name : String} {d : Decoder α} {aliases : List String} {fs : List Field}
  {P : α → Prop}

theorem required (h : Yields d P) : Component (.required name d aliases :: fs)
    (fun vs => P vs.1) (fun found => ∀ v ∈ found.1, P v) :=
  .here h (by rintro v ⟨⟩)

theorem optional {default : α} (h : Yields d P) (hdefault : P default) :
    Component (.optional name d default aliases :: fs)
      (fun vs => P vs.1) (fun found => ∀ v ∈ found.1, P v) := by
  refine .here h ?_
  rintro v ⟨⟩
  exact hdefault

end Fields

variable {fs : List Field} {Q : Values fs → Prop} {R : Draft fs → Prop} {src : Source}

theorem empty (h : Component fs Q R) : R (Draft.empty fs) := by
  induction h with
  | here hdecode hdefault => nofun
  | there h ih => exact ih

/-- Reading one member more keeps the property. -/
theorem member? (h : Component fs Q R) {key : String} {n : Node} {d d' : Draft fs} (hd : R d)
    (hn : n.Numeric) (hmember : Draft.member? fs src key n d = some (.ok d')) : R d' := by
  induction h with
  | here hdecode hdefault =>
    rcases Draft.member?_cons_eq_ok hmember with ⟨v, hv, rfl⟩ | ⟨rest, -, rfl⟩
    · rintro w ⟨⟩
      exact hdecode src n v hn hv
    · exact hd
  | there h ih =>
    rcases Draft.member?_cons_eq_ok hmember with ⟨v, -, rfl⟩ | ⟨rest, hrest, rfl⟩
    · exact hd
    · exact ih hd hrest

/-- Reading all members keeps the property. -/
theorem members (h : Component fs Q R) {ms : List (String × Node)} {d d' : Draft fs} (hd : R d)
    (hms : ∀ m ∈ ms, m.2.Numeric) (hmembers : Draft.members fs src ms d = .ok d') : R d' := by
  induction ms generalizing d with
  | nil =>
    cases hmembers
    exact hd
  | cons m ms ih =>
    obtain ⟨key, n⟩ := m
    obtain ⟨hm, hrest⟩ := List.forall_mem_cons.mp hms
    by_cases hn : ∃ m, n = .unlabelled m
    · obtain ⟨m, rfl⟩ := hn
      cases hmembers
    · rw [not_exists] at hn
      rw [Draft.members_step hn] at hmembers
      split at hmembers
      · cases hmembers
      · next d₁ hmember => exact ih (h.member? hd hm hmember) hrest hmembers
      · -- an unknown key
        split at hmembers
        · exact ih hd hrest hmembers
        · cases hmembers

/-- What is found and what is filled in have the property. -/
theorem finish (h : Component fs Q R) {d : Draft fs} {vs : Values fs} (hd : R d)
    (hfinish : Draft.finish fs d = .ok vs) : Q vs := by
  induction h with
  | here hdecode hdefault =>
    obtain ⟨hfirst, -⟩ := Draft.finish_cons_eq_ok hfinish
    rcases Option.or_eq_some_iff.mp hfirst with hfound | ⟨-, hmissing⟩
    · exact hd _ hfound
    · exact hdefault _ hmissing
  | there h ih =>
    obtain ⟨-, hrest⟩ := Draft.finish_cons_eq_ok hfinish
    exact ih hd hrest

theorem positional (h : Component fs Q R) {ns : List Node} {vs : Values fs}
    (hns : ∀ n ∈ ns, n.Numeric) (hvs : Document.positional fs src ns = .ok vs) : Q vs := by
  induction h generalizing ns with
  | here hdecode hdefault =>
    obtain ⟨hfirst, -⟩ := positional_cons_eq_ok hvs
    rcases hfirst with hmissing | ⟨n, hn, hv⟩
    · exact hdefault _ hmissing
    · exact hdecode src n _ (hns n hn) hv
  | there h ih =>
    obtain ⟨-, hrest⟩ := positional_cons_eq_ok hvs
    exact ih (fun n hn => hns n (List.mem_of_mem_tail hn)) hrest

/-- **A record yields what one of its fields yields**, by key and by position. -/
theorem record (h : Component fs Q R) : Yields (Decoder.record fs) Q := by
  intro src n vs hn hvs
  cases hn with
  | record hms =>
    rw [Decoder.record, keyed] at hvs
    split at hvs
    · cases hvs
    · next d hd => exact h.finish (h.members h.empty hms hd) hvs
  | list hns => exact h.positional hns hvs
  | marred n => cases n <;> cases hvs
  | _ => cases hvs

end Component

end ParamSql.Document
