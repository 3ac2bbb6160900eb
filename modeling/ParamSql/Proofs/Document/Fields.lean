import ParamSql.Proofs.Document.Places

/-!
# What the fields of a record are given

A record is read if each of its fields takes what is given to it: under its keys, or in its
position, stands one value that the field reads, or nothing, and the field has a default.  A key
goes to the first field that accepts it; what stands under a key that no field accepts is only
gone through.  So two records are read as the same values if their fields are given the same, in
whichever way the records are written.

## Main definitions

* `Field.Takes`: what a field is given is read as a value
* `Document.Shared`, `Document.InOrder`: the members of a record, or the items of a list, are
  given to the fields

## Main results

* `Document.keyed_eq_ok_iff`, `Document.positional_eq_ok_iff`: when a record is read
* `Shared.perm`, `Shared.exchange`, `Shared.insert`, `Shared.rename`: what may change in a record
* `Shared.transfer`: the fields may read from another source
-/

namespace ParamSql.Document

/-! ## What a document has member by member -/

namespace Node

variable {ms : List (String × Node)} {ns : List Node} {k : Nat}

theorem membersReadable_eq_all : membersReadable ms = ms.all (·.2.readable) := by
  induction ms with
  | nil => rfl
  | cons m ms ih => rw [membersReadable, ih, List.all_cons]

theorem allReadable_eq_all : allReadable ns = ns.all readable := by
  induction ns with
  | nil => rfl
  | cons n ns ih => rw [allReadable, ih, List.all_cons]

theorem membersWellFormed_eq_all : membersWellFormed ms = ms.all (·.2.wellFormed) := by
  induction ms with
  | nil => rfl
  | cons m ms ih => rw [membersWellFormed, ih, List.all_cons]

theorem allWellFormed_eq_all : allWellFormed ns = ns.all wellFormed := by
  induction ns with
  | nil => rfl
  | cons n ns ih => rw [allWellFormed, ih, List.all_cons]

theorem depthOfMembers_le_iff : depthOfMembers ms ≤ k ↔ ∀ m ∈ ms, m.2.depth ≤ k := by
  induction ms with
  | nil => simp [depthOfMembers]
  | cons m ms ih => rw [depthOfMembers, Nat.max_le, ih, List.forall_mem_cons]

theorem depthOfAll_le_iff {ns : List Node} :
    depthOfAll ns ≤ k ↔ ∀ n ∈ ns, n.depth ≤ k := by
  induction ns with
  | nil => simp [depthOfAll]
  | cons n ns ih => rw [depthOfAll, Nat.max_le, ih, List.forall_mem_cons]

mutual

/-- What holds no fault is well formed. -/
theorem wellFormed_of_readable : ∀ n : Node, n.readable = true → n.wellFormed = true
  | .list ns, h => allWellFormed_of_allReadable ns h
  | .record ms, h => membersWellFormed_of_membersReadable ms h
  | .null, _ => rfl
  | .bool _, _ => rfl
  | .int _, _ => rfl
  | .real _, _ => rfl
  | .text _, _ => rfl

theorem allWellFormed_of_allReadable :
    ∀ ns : List Node, allReadable ns = true → allWellFormed ns = true
  | [], _ => rfl
  | n :: ns, h => by
    rw [allReadable, Bool.and_eq_true] at h
    rw [allWellFormed, Bool.and_eq_true]
    exact ⟨wellFormed_of_readable n h.1, allWellFormed_of_allReadable ns h.2⟩

theorem membersWellFormed_of_membersReadable :
    ∀ ms : List (String × Node), membersReadable ms = true → membersWellFormed ms = true
  | [], _ => rfl
  | (_, n) :: ms, h => by
    rw [membersReadable, Bool.and_eq_true] at h
    rw [membersWellFormed, Bool.and_eq_true]
    exact ⟨wellFormed_of_readable n h.1, membersWellFormed_of_membersReadable ms h.2⟩

end

end Node

/-! ## What fields take -/

/-- What the field is given is read as the value. -/
inductive Field.Takes (f : Field) (src : Source) (v : f.Value) : List Node → Prop
  | given {n : Node} (h : f.decode src n = .ok v) : Takes f src v [n]
  | missing (h : f.default = some v) : Takes f src v []

/-- The values of the members that a field accepts. -/
def Field.part (f : Field) (ms : List (String × Node)) : List Node :=
  (ms.filter (f.accepts ·.1)).map (·.2)

/-- The members that a field leaves to the others. -/
def Field.rest (f : Field) (ms : List (String × Node)) : List (String × Node) :=
  ms.filter (!f.accepts ·.1)

/-- Every field takes the members under its keys as its value, the first field first, and the
members that are left are well formed. -/
def Shared (src : Source) : (fs : List Field) → List (String × Node) → Values fs → Prop
  | [], ms, _ => ∀ m ∈ ms, m.2.wellFormed = true
  | f :: fs, ms, vs => f.Takes src vs.1 (f.part ms) ∧ Shared src fs (f.rest ms) vs.2

/-- Every field takes the item in its position as its value.  More items than fields are only
passed over in a configuration document. -/
def InOrder (src : Source) : (fs : List Field) → List Node → Values fs → Prop
  | [], ns, _ => ns = [] ∨ src = .toml
  | f :: fs, ns, vs => f.Takes src vs.1 (ns.take 1) ∧ InOrder src fs (ns.drop 1) vs.2

/-- No member has a key that is no text. -/
def Labelled (ms : List (String × Node)) : Prop := ∀ m ∈ ms, ∀ u, m.2 ≠ .unlabelled u

section Reading

variable {f : Field} {fs : List Field} {src : Source} {ms : List (String × Node)} {key : String}
  {n : Node}

/-- The value of the first field is put in front of those of the others. -/
theorem map_mk_eq_ok_iff {x : Except DecodeError (Values fs)} {v : f.Value}
    {vs : Values (f :: fs)} :
    (x.map fun ws => (v, ws)) = .ok vs ↔ v = vs.1 ∧ x = .ok vs.2 := by
  cases x with
  | error e => exact iff_of_false (by rintro ⟨⟩) (by rintro ⟨-, ⟨⟩⟩)
  | ok ws =>
    refine ⟨?_, ?_⟩
    · rintro ⟨⟩
      exact ⟨rfl, rfl⟩
    · rintro ⟨rfl, hws⟩
      cases hws
      rfl

namespace Field

theorem part_cons (m : String × Node) : f.part (m :: ms) =
    if f.accepts m.1 then m.2 :: f.part ms else f.part ms := by
  rw [part, List.filter_cons]
  split
  · rw [List.map_cons, part]
  · rw [part]

theorem rest_cons (m : String × Node) : f.rest (m :: ms) =
    if f.accepts m.1 then f.rest ms else m :: f.rest ms := by
  rw [rest, List.filter_cons]
  cases f.accepts m.1 <;> rfl

theorem takes_nil_iff {v : f.Value} : f.Takes src v [] ↔ f.default = some v := by
  refine ⟨fun h => ?_, .missing⟩
  cases h with
  | missing h => exact h

theorem takes_cons_iff {v : f.Value} {ns : List Node} :
    f.Takes src v (n :: ns) ↔ f.decode src n = .ok v ∧ ns = [] := by
  constructor
  · rintro (_ | _)
    next h => exact ⟨h, rfl⟩
  · rintro ⟨h, rfl⟩
    exact .given h

end Field

namespace Draft

variable {found : Option f.Value} {d : Draft fs} {e : Draft (f :: fs)} {vs : Values (f :: fs)}

/-- What was found for a field after it was given some more. -/
def Fills (f : Field) (src : Source) (found : Option f.Value) :
    List Node → Option f.Value → Prop
  | [], found' => found' = found
  | n :: ns, found' => found = none ∧ ∃ v, f.decode src n = .ok v ∧ found' = some v ∧ ns = []

/-- A second value would find the field filled. -/
theorem fills_some_iff {v : f.Value} (hv : f.decode src n = .ok v) {ns : List Node}
    {found' : Option f.Value} :
    Fills f src (some v) ns found' ↔ Fills f src none (n :: ns) found' := by
  cases ns <;> simp [Fills, hv]

/-- The members of the first field are read into it, and the others by the other fields. -/
theorem members_cons_eq_ok_iff : members (f :: fs) src ms (cons found d) = .ok e ↔
    Labelled ms ∧ Fills f src found (f.part ms) e.1 ∧ members fs src (f.rest ms) d = .ok e.2 := by
  induction ms generalizing found d with
  | nil =>
    constructor
    · rintro ⟨⟩
      exact ⟨List.forall_mem_nil _, rfl, rfl⟩
    · rintro ⟨-, hfound, hrest⟩
      obtain ⟨found', d'⟩ := e
      cases hfound
      cases hrest
      rfl
  | cons m ms ih =>
    obtain ⟨key, n⟩ := m
    by_cases hn : ∃ u, n = .unlabelled u
    · obtain ⟨u, rfl⟩ := hn
      exact iff_of_false (by rintro ⟨⟩) fun h => h.1 _ List.mem_cons_self u rfl
    · rw [not_exists] at hn
      have hlabelled : Labelled ((key, n) :: ms) ↔ Labelled ms :=
        List.forall_mem_cons.trans (and_iff_right hn)
      rw [members_step hn, hlabelled, Field.part_cons, Field.rest_cons]
      cases hkey : f.accepts key with
      | true =>
        simp only [if_true, cons, member?, hkey]
        cases found with
        | some w => exact iff_of_false (by rintro ⟨⟩) (by rintro ⟨-, ⟨⟨⟩, -⟩, -⟩)
        | none =>
          cases hv : f.decode src n with
          | error e => exact iff_of_false (by rintro ⟨⟩) (by simp [Fills, hv])
          | ok v =>
            refine ih.trans (and_congr_right fun _ => and_congr_left fun _ => ?_)
            exact fills_some_iff hv
      | false =>
        have hmember : member? (f :: fs) src key n (cons found d) =
            (member? fs src key n d).map (·.map (cons found)) := by
          simp only [cons, member?, hkey]
          rfl
        rw [hmember, if_neg Bool.false_ne_true, if_neg Bool.false_ne_true, members_step hn]
        cases member? fs src key n d with
        | none =>
          simp only [Option.map_none]
          cases n.wellFormed with
          | true => exact ih
          | false => exact iff_of_false (by rintro ⟨⟩) (by rintro ⟨-, -, ⟨⟩⟩)
        | some r =>
          cases r with
          | error e => exact iff_of_false (by rintro ⟨⟩) (by rintro ⟨-, -, ⟨⟩⟩)
          | ok d => exact ih

theorem finish_cons_eq_ok_iff :
    finish (f :: fs) e = .ok vs ↔ e.1.or f.default = some vs.1 ∧ finish fs e.2 = .ok vs.2 :=
  ⟨finish_cons_eq_ok, fun h => finish_cons h.2 e.1 h.1⟩

/-- A field with nothing found so far takes its part if that fills it, or it has a default. -/
theorem takes_iff_fills {v : f.Value} {ns : List Node} :
    f.Takes src v ns ↔ ∃ found, Fills f src none ns found ∧ found.or f.default = some v := by
  cases ns with
  | nil => simp [Fills, Field.takes_nil_iff]
  | cons n ns =>
    rw [Field.takes_cons_iff]
    constructor
    · rintro ⟨hv, rfl⟩
      exact ⟨some v, ⟨rfl, v, hv, rfl, rfl⟩, rfl⟩
    · rintro ⟨_, ⟨-, w, hw, rfl, rfl⟩, hv⟩
      cases hv
      exact ⟨hw, rfl⟩

end Draft

theorem keyed_eq_ok_iff_exists {vs : Values fs} : keyed fs src ms = .ok vs ↔
    ∃ d, Draft.members fs src ms (Draft.empty fs) = .ok d ∧ Draft.finish fs d = .ok vs := by
  rw [keyed]
  cases Draft.members fs src ms (Draft.empty fs) <;> simp

/-- The first field takes its part, and the others are read off the rest. -/
theorem keyed_cons_eq_ok_iff {vs : Values (f :: fs)} : keyed (f :: fs) src ms = .ok vs ↔
    Labelled ms ∧ f.Takes src vs.1 (f.part ms) ∧ keyed fs src (f.rest ms) = .ok vs.2 := by
  rw [keyed_eq_ok_iff_exists, keyed_eq_ok_iff_exists, Draft.takes_iff_fills]
  constructor
  · rintro ⟨e, he, hfinish⟩
    obtain ⟨hms, hfills, hrest⟩ := Draft.members_cons_eq_ok_iff.mp he
    obtain ⟨hv, hvs⟩ := Draft.finish_cons_eq_ok_iff.mp hfinish
    exact ⟨hms, ⟨e.1, hfills, hv⟩, e.2, hrest, hvs⟩
  · rintro ⟨hms, ⟨found, hfills, hv⟩, d, hrest, hvs⟩
    exact ⟨Draft.cons found d, Draft.members_cons_eq_ok_iff.mpr ⟨hms, hfills, hrest⟩,
      Draft.finish_cons_eq_ok_iff.mpr ⟨hv, hvs⟩⟩

/-- Without fields, all that is there is gone through. -/
theorem members_nil_eq_ok_iff {d : Draft []} : Draft.members [] src ms (Draft.empty []) = .ok d ↔
    Labelled ms ∧ ∀ m ∈ ms, m.2.wellFormed = true := by
  induction ms with
  | nil => exact iff_of_true rfl ⟨List.forall_mem_nil _, List.forall_mem_nil _⟩
  | cons m ms ih =>
    obtain ⟨key, n⟩ := m
    by_cases hn : ∃ u, n = .unlabelled u
    · obtain ⟨u, rfl⟩ := hn
      exact iff_of_false (by rintro ⟨⟩) fun h => h.1 _ List.mem_cons_self u rfl
    · rw [not_exists] at hn
      have hlabelled : Labelled ((key, n) :: ms) ↔ Labelled ms :=
        List.forall_mem_cons.trans (and_iff_right hn)
      rw [Draft.members_step hn, hlabelled, List.forall_mem_cons]
      simp only [Draft.member?]
      cases hwell : n.wellFormed with
      | true => exact ih.trans (and_congr_right fun _ => (and_iff_right rfl).symm)
      | false => exact iff_of_false (by rintro ⟨⟩) (by rintro ⟨-, ⟨⟩, -⟩)

/-- **A record is read by key** if its members are shared out to the fields. -/
theorem keyed_eq_ok_iff {vs : Values fs} :
    keyed fs src ms = .ok vs ↔ Labelled ms ∧ Shared src fs ms vs := by
  induction fs generalizing ms with
  | nil =>
    rw [keyed_eq_ok_iff_exists, Shared, ← members_nil_eq_ok_iff (d := Draft.empty [])]
    exact ⟨fun ⟨_, h, _⟩ => h, fun h => ⟨_, h, rfl⟩⟩
  | cons f fs ih =>
    rw [keyed_cons_eq_ok_iff, ih, Shared]
    refine and_congr_right fun hms => and_congr_right fun _ => and_iff_right fun m hm => ?_
    exact hms m (List.mem_of_mem_filter hm)

/-- **A record is read by position** if its items go to the fields in their order. -/
theorem positional_eq_ok_iff {ns : List Node} {vs : Values fs} :
    positional fs src ns = .ok vs ↔ InOrder src fs ns vs := by
  induction fs generalizing ns with
  | nil =>
    cases ns with
    | nil => exact iff_of_true rfl (.inl rfl)
    | cons n ns =>
      cases src with
      | toml => exact iff_of_true rfl (.inr rfl)
      | _ => exact iff_of_false (by rintro ⟨⟩) (by simp [InOrder])
  | cons f fs ih =>
    cases ns with
    | nil =>
      rw [positional, InOrder, List.take_nil, List.drop_nil, Field.takes_nil_iff, ← ih]
      cases f.default with
      | none => exact iff_of_false (by rintro ⟨⟩) (by rintro ⟨⟨⟩, -⟩)
      | some v => exact map_mk_eq_ok_iff.trans (and_congr_left fun _ => Option.some_inj.symm)
    | cons n ns =>
      rw [positional, InOrder, List.take_succ_cons, List.take_zero, List.drop_succ_cons,
        List.drop_zero, Field.takes_cons_iff, ← ih]
      cases f.decode src n with
      | error e => exact iff_of_false (by rintro ⟨⟩) (by rintro ⟨⟨⟨⟩, -⟩, -⟩)
      | ok v =>
        rw [and_iff_left rfl, Except.ok.injEq]
        exact map_mk_eq_ok_iff

end Reading

/-! ## What may change in a record -/

section Changing

variable {fs : List Field} {src src' : Source} {ms ms' before after : List (String × Node)}
  {key key' : String} {n n' : Node} {vs : Values fs}

namespace Field

variable {f : Field}

theorem part_append : f.part (before ++ after) = f.part before ++ f.part after := by
  rw [part, List.filter_append, List.map_append, part, part]

theorem rest_append : f.rest (before ++ after) = f.rest before ++ f.rest after :=
  List.filter_append ..

/-- What a field takes is at most one value, which has no other order. -/
theorem Takes.perm {v : f.Value} {ns ns' : List Node} (h : f.Takes src v ns)
    (hns : ns.Perm ns') : f.Takes src v ns' := by
  cases h with
  | given h =>
    obtain rfl := List.singleton_perm.mp hns
    exact .given h
  | missing h =>
    obtain rfl := List.nil_perm.mp hns
    exact .missing h

/-- What is given to a field may be read in another way. -/
theorem Takes.transfer {v : f.Value} {ns : List Node} (h : f.Takes src v ns)
    {d : Decoder f.Value} (hread : ∀ n ∈ ns, ∀ v, f.decode src n = .ok v → d src' n = .ok v) :
    Takes { f with decode := d } src' v ns := by
  cases h with
  | given h => exact .given (hread _ List.mem_cons_self v h)
  | missing h => exact .missing h

/-- The one value that a field takes may be exchanged for one that it reads alike. -/
theorem Takes.exchange {v : f.Value} {ns ns' : List Node} (h : f.Takes src v (ns ++ n :: ns'))
    (hread : ∀ v, f.decode src n = .ok v → f.decode src n' = .ok v) :
    f.Takes src v (ns ++ n' :: ns') := by
  cases ns with
  | nil =>
    obtain ⟨hv, rfl⟩ := takes_cons_iff.mp h
    exact .given (hread v hv)
  | cons u us =>
    obtain ⟨-, hrest⟩ := takes_cons_iff.mp h
    exact absurd hrest (List.append_ne_nil_of_right_ne_nil _ (List.cons_ne_nil _ _))

theorem exists_of_mem_part (h : n ∈ f.part ms) : ∃ m ∈ ms, m.2 = n := by
  obtain ⟨m, hm, rfl⟩ := List.mem_map.mp h
  exact ⟨m, List.mem_of_mem_filter hm, rfl⟩

end Field

/-- The order of the members does not matter. -/
theorem Shared.perm (h : Shared src fs ms vs) (hms : ms.Perm ms') : Shared src fs ms' vs := by
  induction fs generalizing ms ms' with
  | nil => exact fun m hm => h m (hms.mem_iff.mpr hm)
  | cons f fs ih => exact ⟨h.1.perm ((hms.filter _).map _), ih h.2 (hms.filter _)⟩

/-- The value of a member may be exchanged for one that its field reads alike. -/
theorem Shared.exchange (h : Shared src fs (before ++ (key, n) :: after) vs)
    (hread : ∀ f, fs.find? (·.accepts key) = some f →
      ∀ v, f.decode src n = .ok v → f.decode src n' = .ok v)
    (hwell : fs.find? (·.accepts key) = none → n.wellFormed = true → n'.wellFormed = true) :
    Shared src fs (before ++ (key, n') :: after) vs := by
  induction fs generalizing before after with
  | nil =>
    simp only [Shared, List.forall_mem_append, List.forall_mem_cons] at h ⊢
    exact ⟨h.1, hwell rfl h.2.1, h.2.2⟩
  | cons f fs ih =>
    obtain ⟨htakes, hrest⟩ := h
    rw [Shared, Field.part_append, Field.part_cons, Field.rest_append, Field.rest_cons]
    rw [Field.part_append, Field.part_cons] at htakes
    rw [Field.rest_append, Field.rest_cons] at hrest
    cases hkey : f.accepts key with
    | true =>
      simp only [hkey, if_true] at htakes hrest ⊢
      have hread := hread f (by rw [List.find?_cons, hkey])
      exact ⟨htakes.exchange hread, hrest⟩
    | false =>
      simp only [hkey, Bool.false_eq_true, if_false] at htakes hrest ⊢
      refine ⟨htakes, ih hrest (fun g hg => hread g ?_) fun hnone => hwell ?_⟩
      · rw [List.find?_cons, hkey, hg]
      · rw [List.find?_cons, hkey, hnone]

/-- A member under a key that no field accepts may be added. -/
theorem Shared.insert (h : Shared src fs (before ++ after) vs)
    (hkey : ∀ f ∈ fs, f.accepts key = false) (hwell : n.wellFormed = true) :
    Shared src fs (before ++ (key, n) :: after) vs := by
  induction fs generalizing before after with
  | nil =>
    simp only [Shared, List.forall_mem_append, List.forall_mem_cons] at h ⊢
    exact ⟨h.1, hwell, h.2⟩
  | cons f fs ih =>
    obtain ⟨hf, hkey⟩ := List.forall_mem_cons.mp hkey
    rw [Shared, Field.part_append, Field.rest_append] at h
    rw [Shared, Field.part_append, Field.part_cons, Field.rest_append, Field.rest_cons]
    simp only [hf, Bool.false_eq_true, if_false]
    exact ⟨h.1, ih h.2 hkey⟩

/-- A member may stand under another key of its field. -/
theorem Shared.rename {f : Field} (h : Shared src fs (before ++ (key, n) :: after) vs)
    (hkey : fs.find? (·.accepts key) = some f) (hkey' : fs.find? (·.accepts key') = some f) :
    Shared src fs (before ++ (key', n) :: after) vs := by
  induction fs generalizing before after with
  | nil => cases hkey
  | cons g fs ih =>
    have hf : f.accepts key = true := List.find?_some (p := fun g : Field => g.accepts key) hkey
    have hf' : f.accepts key' = true :=
      List.find?_some (p := fun g : Field => g.accepts key') hkey'
    rw [Shared, Field.part_append, Field.part_cons, Field.rest_append, Field.rest_cons] at h ⊢
    rw [List.find?_cons] at hkey hkey'
    cases hg : g.accepts key with
    | true =>
      rw [hg] at hkey
      cases hkey
      rw [if_pos hf, if_pos hf] at h
      rwa [if_pos hf', if_pos hf']
    | false =>
      cases hg' : g.accepts key' with
      | true =>
        rw [hg'] at hkey'
        cases hkey'
        exact absurd hf (hg ▸ Bool.false_ne_true)
      | false =>
        simp only [hg, hg', Bool.false_eq_true, if_false] at h hkey hkey' ⊢
        exact ⟨h.1, ih h.2 hkey hkey'⟩

/-! ### The record as a whole -/

theorem keyed_perm (h : keyed fs src ms = .ok vs) (hms : ms.Perm ms') :
    keyed fs src ms' = .ok vs := by
  obtain ⟨hlabelled, hshared⟩ := keyed_eq_ok_iff.mp h
  refine keyed_eq_ok_iff.mpr ⟨?_, hshared.perm hms⟩
  intro m hm
  exact hlabelled m (hms.mem_iff.mpr hm)

theorem labelled_exchange (h : Labelled (before ++ (key, n) :: after))
    (hn' : ∀ u, n' ≠ .unlabelled u) : Labelled (before ++ (key', n') :: after) := by
  rw [Labelled, List.forall_mem_append, List.forall_mem_cons] at h ⊢
  exact ⟨h.1, hn', h.2.2⟩

theorem keyed_exchange (h : keyed fs src (before ++ (key, n) :: after) = .ok vs)
    (hread : ∀ f, fs.find? (·.accepts key) = some f →
      ∀ v, f.decode src n = .ok v → f.decode src n' = .ok v)
    (hn' : ∀ u, n' ≠ .unlabelled u)
    (hwell : fs.find? (·.accepts key) = none → n.wellFormed = true → n'.wellFormed = true) :
    keyed fs src (before ++ (key, n') :: after) = .ok vs := by
  obtain ⟨hlabelled, hshared⟩ := keyed_eq_ok_iff.mp h
  exact keyed_eq_ok_iff.mpr ⟨labelled_exchange hlabelled hn', hshared.exchange hread hwell⟩

theorem keyed_insert (h : keyed fs src (before ++ after) = .ok vs)
    (hkey : ∀ f ∈ fs, f.accepts key = false) (hn : n.readable = true) :
    keyed fs src (before ++ (key, n) :: after) = .ok vs := by
  obtain ⟨hlabelled, hshared⟩ := keyed_eq_ok_iff.mp h
  refine keyed_eq_ok_iff.mpr ⟨?_, hshared.insert hkey (n.wellFormed_of_readable hn)⟩
  rw [Labelled, List.forall_mem_append] at hlabelled
  rw [Labelled, List.forall_mem_append, List.forall_mem_cons]
  refine ⟨hlabelled.1, ?_, hlabelled.2⟩
  rintro u rfl
  cases hn

theorem keyed_rename {f : Field} (h : keyed fs src (before ++ (key, n) :: after) = .ok vs)
    (hkey : fs.find? (·.accepts key) = some f) (hkey' : fs.find? (·.accepts key') = some f) :
    keyed fs src (before ++ (key', n) :: after) = .ok vs := by
  obtain ⟨hlabelled, hshared⟩ := keyed_eq_ok_iff.mp h
  refine keyed_eq_ok_iff.mpr ⟨labelled_exchange hlabelled ?_, hshared.rename hkey hkey'⟩
  exact hlabelled (key, n) (List.mem_append_right _ List.mem_cons_self)

/-! ### Another source -/

/-- The fields may read from another source what they read alike there. -/
theorem Shared.transfer (h : Shared src fs ms vs)
    (hread : ∀ f ∈ fs, ∀ m ∈ ms, ∀ v, f.decode src m.2 = .ok v → f.decode src' m.2 = .ok v) :
    Shared src' fs ms vs := by
  induction fs generalizing ms with
  | nil => exact h
  | cons f fs ih =>
    obtain ⟨hf, hfs⟩ := List.forall_mem_cons.mp hread
    refine ⟨h.1.transfer fun n hn v => ?_, ih h.2 fun g hg m hm => ?_⟩
    · obtain ⟨m, hm, rfl⟩ := Field.exists_of_mem_part hn
      exact hf m hm v
    · exact hfs g hg m (List.mem_of_mem_filter hm)

/-- An item may be exchanged for one that its field reads alike. -/
theorem InOrder.exchange {before after : List Node} (h : InOrder src fs (before ++ n :: after) vs)
    (hread : ∀ f, fs[before.length]? = some f →
      ∀ v, f.decode src n = .ok v → f.decode src n' = .ok v) :
    InOrder src fs (before ++ n' :: after) vs := by
  induction fs generalizing before with
  | nil =>
    apply Or.inr
    exact h.resolve_left (List.append_ne_nil_of_right_ne_nil _ (List.cons_ne_nil _ _))
  | cons f fs ih =>
    obtain ⟨htakes, hrest⟩ := h
    cases before with
    | nil =>
      rw [List.nil_append, List.take_succ_cons, List.take_zero, Field.takes_cons_iff] at htakes
      refine ⟨?_, hrest⟩
      rw [List.nil_append, List.take_succ_cons, List.take_zero, Field.takes_cons_iff]
      exact ⟨hread f rfl _ htakes.1, rfl⟩
    | cons u before => exact ⟨htakes, ih hrest hread⟩

/-- The same for a record that is read by position. -/
theorem InOrder.transfer {ns : List Node} (h : InOrder src fs ns vs) (hsrc : src ≠ .toml)
    (hread : ∀ f ∈ fs, ∀ n ∈ ns, ∀ v, f.decode src n = .ok v → f.decode src' n = .ok v) :
    InOrder src' fs ns vs := by
  induction fs generalizing ns with
  | nil => exact .inl (h.resolve_right hsrc)
  | cons f fs ih =>
    obtain ⟨hf, hfs⟩ := List.forall_mem_cons.mp hread
    refine ⟨h.1.transfer fun n hn => hf n (List.mem_of_mem_take hn), ih h.2 fun g hg n hn => ?_⟩
    exact hfs g hg n (List.mem_of_mem_drop hn)

end Changing

end ParamSql.Document
