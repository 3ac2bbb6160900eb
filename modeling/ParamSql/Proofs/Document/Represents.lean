import ParamSql.Document.Decoder

/-!
# Nodes that represent a value

A node represents a value for a decoder if it has no fault and is read as that value, wherever
it comes from.  Decoders are put together from smaller ones, and so are the nodes that represent
their values: a list represents what its items represent, and a record represents the values of
its fields when each field has its member or may do without it.

## Main definitions

* `Document.Represents d n a`: the node is read as the value, from every source
* `Document.Given f v part`: the members that give a field its value
* `Document.Written fs vs ms`: the members that give every field its value, field after field
* `Document.Field.Distinct`: no field takes what is written for a later one

## Main results

* `Document.Represents.list`, `.some`, `.held`, `.map`, `.refine`, `.variant`: one lemma per
  way of putting decoders together
* `Document.keyed_eq_ok`, `Document.Represents.record`: written members are read as the values
-/

namespace ParamSql.Document

/-- The node has no fault, and the decoder reads the value off it wherever it comes from. -/
structure Represents {α : Type} (d : Decoder α) (n : Node) (a : α) : Prop where
  readable : n.readable = true
  decodes : ∀ src, d src n = .ok a

namespace Represents

variable {α β : Type} {d : Decoder α} {n : Node} {a : α}

/-! ## Scalars, lists, options -/

protected theorem text (s : String) : Represents Decoder.text (.text s) s := ⟨rfl, fun _ => rfl⟩

protected theorem bool (b : Bool) : Represents Decoder.bool (.bool b) b := ⟨rfl, fun _ => rfl⟩

protected theorem uint64 (n : UInt64) : Represents Decoder.uint64 (.int n.toNat) n where
  readable := rfl
  decodes := by
    intro src
    have hbound : (0 : Int) ≤ n.toNat ∧ (n.toNat : Int) < UInt64.size :=
      ⟨Int.natCast_nonneg _, Int.ofNat_lt.mpr n.toNat_lt⟩
    rw [Decoder.uint64, Decoder.natBelow, if_pos hbound]
    simp [Except.map]

protected theorem list {encode : α → Node} :
    ∀ {as : List α}, (∀ a ∈ as, Represents d (encode a) a) →
      Represents d.list (.list (as.map encode)) as
  | [], _ => ⟨rfl, fun _ => rfl⟩
  | a :: as, h => by
    obtain ⟨ha, has⟩ := List.forall_mem_cons.mp h
    have hrest := Represents.list has
    refine ⟨?_, fun src => ?_⟩
    · exact Bool.and_eq_true_iff.mpr ⟨ha.readable, hrest.readable⟩
    · have hitems : Decoder.items d src (as.map encode) = .ok as := hrest.decodes src
      rw [List.map_cons, Decoder.list, Decoder.items, ha.decodes]
      simp only [hitems]
      rfl

theorem none : Represents d.option .null none := ⟨rfl, fun _ => rfl⟩

/-- What is there is read off any node but `null`. -/
protected theorem some (h : Represents d n a) (hn : n ≠ .null) :
    Represents d.option n (some a) where
  readable := h.readable
  decodes := by
    intro src
    cases n with
    | null => exact absurd rfl hn
    | _ =>
      rw [Decoder.option, h.decodes]
      · rfl
      · exact hn

/-! ## Conversions -/

protected theorem held (h : Represents d n a) : Represents d.held n a where
  readable := h.readable
  decodes := by
    intro src
    rw [Decoder.held, h.readable]
    simpa using h.decodes .held

protected theorem map (h : Represents d n a) (f : α → β) :
    Represents (fun src n => (d src n).map f) n (f a) where
  readable := h.readable
  decodes := by
    intro src
    rw [h.decodes]
    rfl

protected theorem refine {convert : α → Except QueryError β} {b : β} (h : Represents d n a)
    (hconvert : convert a = .ok b) : Represents (d.refine convert) n b where
  readable := h.readable
  decodes := by
    intro src
    rw [Decoder.refine, h.decodes]
    simp only [hconvert]
    rfl

/-- A word names its value. -/
protected theorem variant {ofWord? : String → Option α} {w : String} (h : ofWord? w = some a) :
    Represents (Decoder.variant ofWord?) (.text w) a where
  readable := rfl
  decodes := by
    intro src
    cases src <;> simp only [Decoder.variant, Decoder.variant.named, h]

end Represents

/-! ## Records -/

/-- The members that give a field its value: one under its name, or none if the field stands for
the value when it is missing. -/
inductive Given (f : Field) (v : f.Value) : List (String × Node) → Prop
  | there {n : Node} (h : Represents f.decode n v) : Given f v [(f.name, n)]
  | missing (h : f.default = some v) : Given f v []

/-- The members that give every field its value, in the order of the fields. -/
inductive Written : (fs : List Field) → Values fs → List (String × Node) → Prop
  | nil : Written [] () []
  | cons {f : Field} {v : f.Value} {fs : List Field} {vs : Values fs}
      {part ms : List (String × Node)} (head : Given f v part) (tail : Written fs vs ms) :
      Written (f :: fs) (v, vs) (part ++ ms)

/-- A field takes nothing that is written under the name of a later one. -/
def Field.Distinct (fs : List Field) : Prop := fs.Pairwise fun f g => f.accepts g.name = false

instance (fs : List Field) : Decidable (Field.Distinct fs) :=
  inferInstanceAs (Decidable (fs.Pairwise fun f g => f.accepts g.name = false))

section Records

variable {f : Field} {v : f.Value} {fs : List Field} {vs : Values fs} {n : Node}
  {ms : List (String × Node)} {src : Source}

theorem Field.accepts_name (f : Field) : f.accepts f.name = true := by
  rw [Field.accepts, beq_self_eq_true, Bool.true_or]

theorem Written.there (h : Represents f.decode n v) (tail : Written fs vs ms) :
    Written (f :: fs) (v, vs) ((f.name, n) :: ms) := .cons (.there h) tail

theorem Written.missing (h : f.default = some v) (tail : Written fs vs ms) :
    Written (f :: fs) (v, vs) ms := .cons (.missing h) tail

/-- Members are written under the names of the fields. -/
theorem Written.exists_name (h : Written fs vs ms) : ∀ m ∈ ms, ∃ f ∈ fs, m.1 = f.name := by
  induction h with
  | nil => nofun
  | @cons f _ _ _ _ _ head _ ih =>
    refine List.forall_mem_append.mpr ⟨fun m hm => ?_, fun m hm => ?_⟩
    · cases head with
      | there => exact ⟨f, List.mem_cons_self, by rw [List.mem_singleton.mp hm]⟩
      | missing => cases hm
    · obtain ⟨g, hg, hname⟩ := ih m hm
      exact ⟨g, List.mem_cons_of_mem f hg, hname⟩

theorem Node.membersReadable_append {ms ns : List (String × Node)} :
    Node.membersReadable (ms ++ ns) = (Node.membersReadable ms && Node.membersReadable ns) := by
  induction ms with
  | nil => rfl
  | cons m ms ih =>
    rw [List.cons_append, Node.membersReadable, ih, Node.membersReadable, Bool.and_assoc]

theorem Written.readable (h : Written fs vs ms) : Node.membersReadable ms = true := by
  induction h with
  | nil => rfl
  | cons head _ ih =>
    rw [Node.membersReadable_append, ih, Bool.and_true]
    cases head with
    | there h => simpa [Node.membersReadable] using h.readable
    | missing => rfl

namespace Draft

/-- What was found for the first field, and for the others. -/
def cons (found : Option f.Value) (d : Draft fs) : Draft (f :: fs) := (found, d)

/-- A member is read into its field before the members behind it. -/
theorem members_step {key : String} (hn : ∀ m, n ≠ .unlabelled m) (d : Draft fs) :
    members fs src ((key, n) :: ms) d =
      match member? fs src key n d with
      | some (.error e) => .error e
      | some (.ok d) => members fs src ms d
      | none => if n.wellFormed then members fs src ms d else .error .malformed := by
  cases n with
  | unlabelled m => exact absurd rfl (hn m)
  | _ => rfl

/-- Members that are not for the first field go past it. -/
theorem members_cons (hms : ∀ m ∈ ms, f.accepts m.1 = false) (found : Option f.Value)
    (d : Draft fs) :
    members (f :: fs) src ms (cons found d) = (members fs src ms d).map (cons found) := by
  induction ms generalizing d with
  | nil => rfl
  | cons m ms ih =>
    obtain ⟨key, n⟩ := m
    obtain ⟨hkey, hrest⟩ := List.forall_mem_cons.mp hms
    have hmember : member? (f :: fs) src key n (cons found d) =
        (member? fs src key n d).map (·.map (cons found)) := by
      simp only [cons, member?, hkey]
      rfl
    by_cases hn : ∃ m, n = .unlabelled m
    · obtain ⟨m, rfl⟩ := hn
      rfl
    · rw [not_exists] at hn
      rw [members_step hn, members_step hn, hmember]
      cases member? fs src key n d with
      | none =>
        simp only [Option.map_none, ih hrest]
        split <;> rfl
      | some r =>
        cases r with
        | error e => rfl
        | ok d => exact ih hrest d

/-- A member of the first field is read into it. -/
theorem members_cons_there (h : Represents f.decode n v) (d : Draft fs) :
    members (f :: fs) src ((f.name, n) :: ms) (cons none d) =
      members (f :: fs) src ms (cons (some v) d) := by
  have hmember : member? (f :: fs) src f.name n (cons none d) = some (.ok (cons (some v) d)) := by
    simp only [cons, member?, Field.accepts_name, h.decodes]
    rfl
  have hn : ∀ m, n ≠ .unlabelled m := by
    rintro m rfl
    cases h.readable
  rw [members_step hn, hmember]

theorem finish_cons {d : Draft fs} (h : finish fs d = .ok vs) (found : Option f.Value)
    (hfound : found.or f.default = some v) : finish (f :: fs) (cons found d) = .ok (v, vs) := by
  cases found with
  | some w =>
    cases hfound
    simp only [cons, finish, h]
    rfl
  | none =>
    rw [Option.none_or] at hfound
    simp only [cons, finish, hfound, h]
    rfl

end Draft

theorem Written.members_eq (hfs : Field.Distinct fs) (h : Written fs vs ms) :
    ∃ d, Draft.members fs src ms (Draft.empty fs) = .ok d ∧ Draft.finish fs d = .ok vs := by
  induction h with
  | nil => exact ⟨(), rfl, rfl⟩
  | @cons f v fs vs part ms head tail ih =>
    obtain ⟨hf, hfs⟩ := List.pairwise_cons.mp hfs
    obtain ⟨d, hmembers, hfinish⟩ := ih hfs
    have hpast : ∀ m ∈ ms, f.accepts m.1 = false := by
      intro m hm
      obtain ⟨g, hg, hname⟩ := tail.exists_name m hm
      rw [hname]
      exact hf g hg
    have hrest (found : Option f.Value) :
        Draft.members (f :: fs) src ms (Draft.cons found (Draft.empty fs)) =
          .ok (Draft.cons found d) := by
      rw [Draft.members_cons hpast, hmembers]
      rfl
    cases head with
    | there h =>
      refine ⟨Draft.cons (some v) d, ?_, Draft.finish_cons hfinish _ rfl⟩
      exact (Draft.members_cons_there h _).trans (hrest (some v))
    | missing h => exact ⟨Draft.cons none d, hrest none, Draft.finish_cons hfinish _ h⟩

/-- **Written members are read as the values**. -/
theorem keyed_eq_ok (hfs : Field.Distinct fs) (h : Written fs vs ms) :
    keyed fs src ms = .ok vs := by
  obtain ⟨d, hmembers, hfinish⟩ := h.members_eq hfs
  rw [keyed, hmembers]
  exact hfinish

theorem Represents.record (hfs : Field.Distinct fs) (h : Written fs vs ms) :
    Represents (Decoder.record fs) (.record ms) vs where
  readable := h.readable
  decodes := fun _ => keyed_eq_ok hfs h

end Records

end ParamSql.Document
