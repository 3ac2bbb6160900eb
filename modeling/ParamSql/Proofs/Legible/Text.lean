import ParamSql.Proofs.Boolean.Name
import ParamSql.Sql.Condition

/-!
# Texts that can be told apart

A text loses nothing if it tells what it was written for from everything else that could have
been written instead, and also where it ends, whatever stands behind it.  Such texts can be put
behind each other, and as many of them as needed, if it is clear from what comes next whether
there is a further one.

## Main definitions

* `Sql.Legible text valid stop a`: the text of `a` is told from that of every valid value, in
  front of whatever the condition `stop` admits
* `Sql.Begins words cs`, `Sql.StartsWord cs`: the text begins with one of the words, or with
  any word
* `Sql.listed lead sep text as`: a list with a separator, behind a word unless it is empty

## Main results

* `Sql.legible_word`: a word in front of what does not continue it
* `Sql.legible_code`: words none of which begins another
* `Sql.Legible.flatMap`, `Sql.Legible.option`, `Sql.Legible.listed`: repetitions
-/

namespace ParamSql.Sql

/-! ## Beginnings -/

/-- One of two texts with the same beginning goes on where the other ends. -/
theorem prefix_or_prefix_of_append {u v r s : List Char} (h : u ++ r = v ++ s) :
    u <+: v ∨ v <+: u :=
  List.prefix_or_prefix_of_prefix (List.prefix_append u r) (h ▸ List.prefix_append v s)

/-- The text begins with one of the words. -/
def Begins (words : List String) (cs : List Char) : Prop := ∃ w ∈ words, w.toList <+: cs

namespace Begins

variable {words : List String} {cs : List Char}

theorem head {w : String} (cs : List Char) : Begins (w :: words) (w.toList ++ cs) :=
  ⟨w, List.mem_cons_self, List.prefix_append _ _⟩

theorem tail {w : String} (h : Begins words cs) : Begins (w :: words) cs := by
  obtain ⟨v, hv, hcs⟩ := h
  exact ⟨v, List.mem_cons_of_mem w hv, hcs⟩

/-- What is true of the first character of every word is true of the text. -/
theorem forall_head {p : Char → Bool} (h : Begins words cs)
    (hwords : ∀ w ∈ words, w.toList.head?.any p = true) : ∀ c ∈ cs.head?, p c = true := by
  obtain ⟨w, hw, more, rfl⟩ := h
  have hp := hwords w hw
  cases hlist : w.toList with
  | nil =>
    rw [hlist] at hp
    cases hp
  | cons d ds =>
    rw [hlist] at hp
    rintro c ⟨⟩
    exact hp

/-- A text that begins with one of the words begins with nothing that differs from all of them. -/
theorem ne_append {u : List Char} (h : Begins words cs)
    (hwords : ∀ w ∈ words, ¬ u <+: w.toList ∧ ¬ w.toList <+: u) (more : List Char) :
    cs ≠ u ++ more := by
  obtain ⟨w, hw, rest, rfl⟩ := h
  intro heq
  obtain ⟨huw, hwu⟩ := hwords w hw
  rcases prefix_or_prefix_of_append heq with hprefix | hprefix
  · exact hwu hprefix
  · exact huw hprefix

end Begins

/-- The text begins with a word. -/
def StartsWord (cs : List Char) : Prop := ∃ c ∈ cs.head?, isWordStart c = true

theorem startsWord_append {w : List Char} (h : isWord w = true) (rest : List Char) :
    StartsWord (w ++ rest) := by
  cases w with
  | nil => cases h
  | cons c w =>
    rw [isWord, Bool.and_eq_true] at h
    exact ⟨c, rfl, h.1⟩

theorem StartsWord.ne_cons {cs : List Char} (h : StartsWord cs) {c : Char}
    (hc : isWordStart c = false) (more : List Char) : cs ≠ c :: more := by
  rintro rfl
  obtain ⟨_, ⟨⟩, hstart⟩ := h
  rw [hc] at hstart
  cases hstart

/-! ## Legible texts -/

section Legible

variable {α β : Type}

/-- Whatever may follow it, the text of `a` is told from that of every valid value. -/
def Legible (text : α → List Char) (valid : α → Prop) (stop : List Char → Prop) (a : α) : Prop :=
  ∀ ⦃b⦄, valid b → ∀ ⦃r s⦄, stop r → stop s → text a ++ r = text b ++ s → a = b ∧ r = s

/-- Runs of such characters are told up to the first other one. -/
theorem eq_of_run {p : Char → Bool} {u v r s : List Char} (hu : ∀ c ∈ u, p c = true)
    (hv : ∀ c ∈ v, p c = true) (hr : ∀ c ∈ r.head?, p c = false)
    (hs : ∀ c ∈ s.head?, p c = false) (h : u ++ r = v ++ s) : u = v ∧ r = s := by
  constructor
  · rw [← Reader.takeWhile_run hu hr, h, Reader.takeWhile_run hv hs]
  · rw [← Reader.dropWhile_run hu hr, h, Reader.dropWhile_run hv hs]

theorem legible_word {u : String} (hu : isWord u.toList = true) :
    Legible (·.toList) (fun v => isWord v.toList = true) EndsWord u := by
  intro v hv r s hr hs h
  have hword := congrArg word h
  rw [word_append hu hr, word_append hv hs, Option.some.injEq, Prod.mk.injEq] at hword
  exact ⟨String.toList_inj.mp hword.1, hword.2⟩

/-- Words are legible if none begins another. -/
theorem legible_code {text : α → List Char} (h : ∀ a b, text a <+: text b → a = b) (a : α) :
    Legible text (fun _ => True) (fun _ => True) a := by
  intro b _ r s _ _ heq
  rcases prefix_or_prefix_of_append heq with hprefix | hprefix
  · obtain rfl := h a b hprefix
    exact ⟨rfl, List.append_cancel_left heq⟩
  · obtain rfl := h b a hprefix
    exact ⟨rfl, List.append_cancel_left heq⟩

/-! ## Repetitions -/

variable {text : α → List Char} {valid : α → Prop} {stop : List Char → Prop} {sep : List Char}

/-- What is written for a list: nothing, or a word and the items with a separator between. -/
def listed (lead sep : List Char) (text : α → List Char) : List α → List Char
  | [] => []
  | a :: as => lead ++ text a ++ as.flatMap (sep ++ text ·)

/-- Behind an item stands the separator of the next one, or the end. -/
theorem stop_flatMap {as : List α} {r : List Char} (hsep : ∀ more, stop (sep ++ more))
    (hr : stop r) : stop (as.flatMap (sep ++ text ·) ++ r) := by
  cases as with
  | nil => exact hr
  | cons a as =>
    rw [List.flatMap_cons, List.append_assoc, List.append_assoc]
    exact hsep _

/-- **Items behind a separator** are legible in front of what does not begin with it. -/
theorem Legible.flatMap {as : List α} (h : ∀ a ∈ as, Legible text valid stop a)
    (hsep : ∀ more, stop (sep ++ more)) :
    Legible (List.flatMap (sep ++ text ·)) (∀ b ∈ ·, valid b)
      (fun r => stop r ∧ ∀ more, r ≠ sep ++ more) as := by
  -- both lists go on, or one would have to begin with a separator where it ends
  induction as with
  | nil =>
    intro bs _ r s hr _ heq
    cases bs with
    | nil => exact ⟨rfl, heq⟩
    | cons b bs =>
      rw [List.flatMap_cons, List.append_assoc, List.append_assoc] at heq
      exact absurd heq (hr.2 _)
  | cons a as ih =>
    obtain ⟨ha, has⟩ := List.forall_mem_cons.mp h
    intro bs hbs r s hr hs heq
    cases bs with
    | nil =>
      rw [List.flatMap_cons, List.append_assoc, List.append_assoc] at heq
      exact absurd heq.symm (hs.2 _)
    | cons b bs =>
      obtain ⟨hb, htail⟩ := List.forall_mem_cons.mp hbs
      simp only [List.flatMap_cons, List.append_assoc] at heq
      obtain ⟨rfl, hrest⟩ := ha hb (stop_flatMap hsep hr.1) (stop_flatMap hsep hs.1)
        (List.append_cancel_left heq)
      obtain ⟨rfl, rfl⟩ := ih has htail hr hs hrest
      exact ⟨rfl, rfl⟩

/-- One item behind a word, or none. -/
theorem Legible.option {o : Option α} (h : ∀ a ∈ o, Legible text valid stop a)
    (hsep : ∀ more, stop (sep ++ more)) :
    Legible (fun o : Option α => o.toList.flatMap (sep ++ text ·)) (∀ b ∈ ·, valid b)
      (fun r => stop r ∧ ∀ more, r ≠ sep ++ more) o := by
  intro o' ho' r s hr hs heq
  have hitems : ∀ a ∈ o.toList, Legible text valid stop a := by simpa using h
  obtain ⟨hlist, rfl⟩ := Legible.flatMap hitems hsep (by simpa using ho') hr hs heq
  refine ⟨?_, rfl⟩
  rw [← Option.head?_toList (o := o), hlist, Option.head?_toList]

/-- **A list with a separator** is legible where its end can be told from a first item and from
a further one. -/
theorem Legible.listed {lead : List Char} {as : List α} (h : ∀ a ∈ as, Legible text valid stop a)
    (has : ∀ a ∈ as, valid a) (hsep : ∀ more, stop (sep ++ more)) :
    Legible (listed lead sep text) (∀ b ∈ ·, valid b)
      (fun r => (stop r ∧ ∀ more, r ≠ sep ++ more) ∧
        ∀ b, valid b → ∀ more, r ≠ lead ++ (text b ++ more)) as := by
  intro bs hbs r s hr hs heq
  cases as with
  | nil =>
    cases bs with
    | nil => exact ⟨rfl, heq⟩
    | cons b bs =>
      simp only [Sql.listed, List.append_assoc] at heq
      exact absurd heq (hr.2 b (hbs b List.mem_cons_self) _)
  | cons a as =>
    cases bs with
    | nil =>
      simp only [Sql.listed, List.append_assoc] at heq
      exact absurd heq.symm (hs.2 a (has a List.mem_cons_self) _)
    | cons b bs =>
      obtain ⟨ha, has⟩ := List.forall_mem_cons.mp h
      obtain ⟨hb, htail⟩ := List.forall_mem_cons.mp hbs
      simp only [Sql.listed, List.append_assoc] at heq
      obtain ⟨rfl, hrest⟩ := ha hb (stop_flatMap hsep hr.1.1) (stop_flatMap hsep hs.1.1)
        (List.append_cancel_left heq)
      obtain ⟨rfl, rfl⟩ := Legible.flatMap has hsep htail hr.1 hs.1 hrest
      exact ⟨rfl, rfl⟩

theorem toList_intercalate (sep : String) (as : List α) (text : α → String) :
    (String.intercalate sep (as.map text)).toList =
      Sql.listed [] sep.toList (fun a => (text a).toList) as := by
  cases as with
  | nil => rfl
  | cons a as => rw [List.map_cons, toList_intercalate_cons, Sql.listed, List.nil_append]

end Legible

end ParamSql.Sql
