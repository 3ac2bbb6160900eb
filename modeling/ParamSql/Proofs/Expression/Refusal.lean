import Mathlib.Data.List.DropRight
import ParamSql.Proofs.Expression.Longest
import ParamSql.Proofs.Expression.Writing

/-!
# Where a text is refused

A text is no expression for one of two reasons.  Either it does not begin with an identifier, and
then no beginning of it is an expression.  Or more text follows behind a beginning of it, and then
that beginning is an expression and there is no longer one.

## Main results

* `exists_node_iff`: something is read exactly if the text begins with an identifier
* `suffix_of_derives`: what is left is behind every expression that the text begins with
* `parse_error_position`: the position of an error is the end of the longest expression
-/

namespace ParamSql

/-! ## Trimming -/

namespace Unicode

variable {cs run : List Char}

/-- What begins with no white space is trimmed at its end only. -/
theorem trim_eq_trimEnd (h : ∀ c ∈ cs.head?, isWhiteSpace c = false) : trim cs = trimEnd cs := by
  cases cs with
  | nil => rfl
  | cons c cs => rw [trim, List.dropWhile_cons, if_neg (by simp [h c rfl])]

theorem trimEnd_prefix (cs : List Char) : trimEnd cs <+: cs :=
  List.rdropWhile_prefix isWhiteSpace cs

/-- White space behind a text is trimmed off, and nothing else of a text that ends with none. -/
theorem trimEnd_append (hlast : ∀ c ∈ cs.getLast?, isWhiteSpace c = false)
    (hrun : ∀ c ∈ run, isWhiteSpace c = true) : trimEnd (cs ++ run) = cs := by
  have hreverse : cs.reverse.dropWhile isWhiteSpace = cs.reverse := by
    rw [← List.head?_reverse] at hlast
    cases hcs : cs.reverse with
    | nil => rfl
    | cons c r =>
      rw [hcs] at hlast
      rw [List.dropWhile_cons, if_neg (by simp [hlast c rfl])]
  rw [trimEnd, List.reverse_append, List.dropWhile_append_of_pos (by simpa using hrun), hreverse,
    List.reverse_reverse]

/-- A trimmed text begins with no white space. -/
theorem head_trim (cs : List Char) : ∀ c ∈ (trim cs).head?, isWhiteSpace c = false := by
  intro c hc
  obtain ⟨rest, hrest⟩ := trimEnd_prefix (cs.dropWhile isWhiteSpace)
  have hhead := List.head?_dropWhile_not isWhiteSpace cs
  have hcs : c ∈ (cs.dropWhile isWhiteSpace).head? := by
    rw [← hrest, List.head?_append, ← trim, Option.mem_def.mp hc]
    rfl
  rw [Option.mem_def.mp hcs] at hhead
  simpa using hhead

end Unicode

namespace Expression

/-! ## Texts that begin with an identifier -/

section Reading

variable {cs rest taken more : List Char} {p q : Predicate} {bound : Nat}

/-- An identifier alone is an expression. -/
theorem derives_of_ident {name : String} (h : Grammar.Ident cs name []) :
    Derives cs ⟨⟨name, none, .eq, false, false⟩, [], []⟩ :=
  .node (.leaf (.plain (.column h)) (.refl []) (.missing []) (.refl []) (.missing [])) (.nil [])
    (.nil [])

theorem exists_ident (h : ∃ c ∈ cs.head?, isIdentStart c = true) :
    ∃ name rest, Grammar.Ident cs name rest := by
  obtain ⟨c, hc, hstart⟩ := h
  cases cs with
  | nil => cases hc
  | cons d cs =>
    cases hc
    have hread : ident (c :: cs) =
        some (String.ofList (c :: cs.takeWhile isIdentRest), cs.dropWhile isIdentRest) := by
      rw [ident, if_pos hstart]
    exact ⟨_, _, Grammar.sound_ident hread⟩

/-- **Something is read** exactly of a text that begins with an identifier. -/
theorem exists_node_iff (h : cs.length < bound) :
    (∃ p rest, node bound cs = some (p, rest)) ↔ ∃ name rest, Grammar.Ident cs name rest := by
  constructor
  · rintro ⟨p, rest, hread⟩
    exact exists_ident (Grammar.sound_node bound hread).isIdentStart_head
  · rintro ⟨name, rest, hident⟩
    obtain ⟨taken, rfl, htaken⟩ := Grammar.local_ident name hident
    have hderives := derives_of_ident (htaken [] (.nil _))
    rw [List.append_nil] at hderives
    obtain ⟨p, last, hread, -⟩ := Grammar.reaches_node bound h hderives
    exact ⟨p, last, hread⟩

/-- **What is left is behind every expression** that the text begins with. -/
theorem suffix_of_derives (h : (taken ++ more).length < bound) (hq : Derives taken q)
    (hread : node bound (taken ++ more) = some (p, rest)) : rest <:+ more := by
  obtain ⟨b, last, hlast, hsuffix⟩ := Grammar.reaches_node bound h hq
  rw [hread] at hlast
  cases hlast
  exact hsuffix

end Reading

/-! ## Whole texts -/

theorem byteCount_eq (cs : List Char) : byteCount cs = (String.ofList cs).utf8ByteSize := by
  induction cs with
  | nil => rfl
  | cons c cs ih =>
    have hcons : String.ofList (c :: cs) = String.singleton c ++ String.ofList cs := by simp
    rw [byteCount, ih, hcons, String.utf8ByteSize_append, String.utf8ByteSize_singleton]

theorem byteCount_append (cs more : List Char) :
    byteCount (cs ++ more) = byteCount cs + byteCount more := by
  rw [byteCount_eq, byteCount_eq, byteCount_eq, String.ofList_append, String.utf8ByteSize_append]

theorem byteCount_pos {cs : List Char} (h : cs ≠ []) : 0 < byteCount cs := by
  cases cs with
  | nil => exact absurd rfl h
  | cons c cs => exact Nat.lt_add_right _ c.utf8Size_pos

/-- The blanks around an expression are trimmed off, and nothing else of one that ends with no
white space. -/
theorem trim_of_derives (lead : List Char) {run cs : List Char} {p : Predicate} (h : Derives cs p)
    (hlast : ∀ c ∈ cs.getLast?, Unicode.isWhiteSpace c = false) (hlead : lead.all isBlank = true)
    (hrun : run.all isBlank = true) : Unicode.trim (lead ++ (cs ++ run)) = cs := by
  have hwhite : ∀ {run : List Char}, run.all isBlank = true →
      ∀ c ∈ run, Unicode.isWhiteSpace c = true := fun hrun c hc =>
    isWhiteSpace_of_isBlank (List.all_eq_true.mp hrun c hc)
  have hhead : ∀ c ∈ (cs ++ run).head?, Unicode.isWhiteSpace c = false := by
    obtain ⟨d, hd, hstart⟩ := h.isIdentStart_head
    intro c hc
    rw [List.head?_append, Option.mem_def.mp hd] at hc
    cases hc
    exact isWhiteSpace_of_isIdentStart hstart
  calc Unicode.trim (lead ++ (cs ++ run))
    _ = Unicode.trim (cs ++ run) := by
      rw [Unicode.trim, List.dropWhile_append_of_pos (hwhite hlead), Unicode.trim]
    _ = Unicode.trimEnd (cs ++ run) := Unicode.trim_eq_trimEnd hhead
    _ = cs := Unicode.trimEnd_append hlast (hwhite hrun)

/-- What is read of a text is the longest expression that it begins with, and blanks. -/
theorem longest_of_node {cs rest : List Char} {p : Predicate}
    (hread : node (cs.length + 1) cs = some (p, rest)) :
    ∃ taken, cs = taken ++ rest ∧ Derives (Unicode.trim taken) p ∧
      ∀ v q, v <+: cs → Derives v q → byteCount v ≤ byteCount taken := by
  obtain ⟨text, run, hcs, hrun, hderives, hlast⟩ := (Grammar.sound_node _ hread).exists_derives
  have htrim : Unicode.trim (text ++ run) = text := trim_of_derives [] hderives hlast rfl hrun
  refine ⟨text ++ run, by rw [List.append_assoc]; exact hcs, by rwa [htrim], fun v q hv hq => ?_⟩
  obtain ⟨more, rfl⟩ := hv
  obtain ⟨before, rfl⟩ := suffix_of_derives (Nat.lt_succ_self _) hq hread
  have hbytes := congrArg byteCount hcs
  simp only [byteCount_append] at hbytes ⊢
  omega

/-- A text is accepted if it denotes a predicate after trimming, which takes only its end if it is
the beginning of a trimmed text. -/
theorem derives_of_prefix {s w : String} {p : Predicate}
    (hw : w.toList <+: Unicode.trim s.toList) (h : parse w = .ok p) :
    Derives (Unicode.trim w.toList) p ∧ Unicode.trim w.toList <+: Unicode.trim s.toList := by
  refine ⟨parseTrimmed_eq_ok_iff.mp h, ?_⟩
  have hhead : ∀ c ∈ w.toList.head?, Unicode.isWhiteSpace c = false := by
    obtain ⟨more, hmore⟩ := hw
    intro c hc
    refine Unicode.head_trim s.toList c ?_
    rw [← hmore, List.head?_append, Option.mem_def.mp hc]
    rfl
  rw [Unicode.trim_eq_trimEnd hhead]
  exact (Unicode.trimEnd_prefix w.toList).trans hw

/-- **An error points at the end of the longest expression.**  Let `t` be a text that is refused,
without the white space around it.  If it does not begin with an identifier, no beginning of it is
accepted, and the error quotes it whole at position zero.  Otherwise the error quotes what is
behind a beginning of it that takes as many bytes as the position says; that beginning is
accepted, it is not all of `t`, and what is accepted of `t` is, trimmed, no longer than it. -/
theorem parse_error_position {s : String} {e : ParseError} (h : parse s = .error e) :
    let t := String.ofList (Unicode.trim s.toList)
    ((¬ ∃ name rest, Grammar.Ident t.toList name rest) →
      e.toQueryError = .parse 0 ("Expected a column near '" ++ t ++ "'") ∧
        ∀ w : String, w.toList <+: t.toList → ∀ p, parse w ≠ .ok p) ∧
    ((∃ name rest, Grammar.Ident t.toList name rest) →
      ∃ taken rest : String, t = taken ++ rest ∧ taken.utf8ByteSize < t.utf8ByteSize ∧
        e.toQueryError =
          .parse taken.utf8ByteSize ("Unexpected trailing content: '" ++ rest ++ "'") ∧
        (∃ p, parse taken = .ok p) ∧
        ∀ (w : String) (p : Predicate), w.toList <+: t.toList → parse w = .ok p →
          (String.ofList (Unicode.trim w.toList)).utf8ByteSize ≤ taken.utf8ByteSize) := by
  intro t
  have ht : t.toList = Unicode.trim s.toList := String.toList_ofList
  have hiff := exists_node_iff (Nat.lt_succ_self t.toList.length)
  have hprefix : ∀ (w : String) (p : Predicate), w.toList <+: t.toList → parse w = .ok p →
      Derives (Unicode.trim w.toList) p ∧ Unicode.trim w.toList <+: t.toList := by
    rw [ht]
    exact fun w p => derives_of_prefix
  rw [parse, parseTrimmed, ← ht] at h
  refine ⟨fun hident => ?_, fun hident => ?_⟩
  · have hnone : node (t.toList.length + 1) t.toList = none := by
      refine Option.eq_none_iff_forall_ne_some.mpr ?_
      rintro ⟨p, rest⟩ hread
      exact hident (hiff.mp ⟨p, rest, hread⟩)
    rw [hnone] at h
    cases h
    refine ⟨by rw [ParseError.toQueryError, String.ofList_toList], fun w p hw hok => ?_⟩
    -- an expression at the beginning would begin with an identifier
    obtain ⟨hderives, more, hmore⟩ := hprefix w hw p hok
    obtain ⟨c, hc, hstart⟩ := hderives.isIdentStart_head
    refine hident (exists_ident ⟨c, ?_, hstart⟩)
    rw [← hmore, List.head?_append, Option.mem_def.mp hc]
    rfl
  · obtain ⟨p, rest, hread⟩ := hiff.mpr hident
    obtain ⟨taken, htaken, hderives, hlongest⟩ := longest_of_node hread
    rw [hread] at h
    cases rest with
    | nil => cases h
    | cons c rest =>
      cases h
      have hbytes : byteCount t.toList = byteCount taken + byteCount (c :: rest) := by
        rw [htaken, byteCount_append]
      have hpos := byteCount_pos (List.cons_ne_nil c rest)
      have hposition : byteCount t.toList - byteCount (c :: rest) = byteCount taken := by omega
      refine ⟨String.ofList taken, String.ofList (c :: rest), ?_, ?_, ?_, ⟨p, ?_⟩, ?_⟩
      · rw [← String.ofList_append, ← htaken, String.ofList_toList]
      · rw [← byteCount_eq, ← String.ofList_toList (s := t), ← byteCount_eq]
        omega
      · rw [ParseError.toQueryError, hposition, byteCount_eq]
      · rw [parse, String.toList_ofList]
        exact parseTrimmed_eq_ok_iff.mpr hderives
      · intro w q hw hok
        obtain ⟨hq, htrim⟩ := hprefix w q hw hok
        rw [← byteCount_eq, ← byteCount_eq]
        exact hlongest _ q htrim hq

/-- A group whose parenthesis is not closed is given back with its sign, and not the blank in
front of that; the position counts bytes.  In front of a parenthesis nothing is an expression. -/
theorem parse_error_position_open_group :
    let s := "\tnäme > &(b, c "
    let e := ParseError.trailing 8 "&(b, c".toList
    parse s = .error e ∧ parse "(b)" = .error (.expectedColumn "(b)".toList) ∧
      e.toQueryError = .parse 8 "Unexpected trailing content: '&(b, c'" ∧
      (∀ (w : String) (p : Predicate), w.toList <+: "näme > &(b, c".toList → parse w = .ok p →
        (String.ofList (Unicode.trim w.toList)).utf8ByteSize ≤ 8) ∧
      ∀ w : String, w.toList <+: "(b)".toList → ∀ p, parse w ≠ .ok p := by
  intro s e
  let name : Predicate := ⟨⟨"näme", none, .gt, false, false⟩, [], []⟩
  have htrim : Unicode.trim s.toList = "näme > &(b, c".toList := by decide +kernel
  have hread : node ("näme > &(b, c".toList.length + 1) "näme > &(b, c".toList =
      some (name, "&(b, c".toList) := by decide +kernel
  have hs : parse s = .error e := by
    rw [parse, htrim, parseTrimmed, hread]
    rfl
  have hparenthesis : parse "(b)" = .error (.expectedColumn "(b)".toList) := rfl
  have hident : ∃ name rest,
      Grammar.Ident (String.ofList (Unicode.trim s.toList)).toList name rest := by
    have hname : ident "näme > &(b, c".toList = some ("näme", " > &(b, c".toList) := by
      decide +kernel
    rw [htrim, String.toList_ofList]
    exact ⟨_, _, Grammar.sound_ident hname⟩
  have hnone : ¬ ∃ name rest,
      Grammar.Ident (String.ofList (Unicode.trim "(b)".toList)).toList name rest := by
    rintro ⟨name, rest, h⟩
    cases h.ident_eq
  have herror : e.toQueryError = .parse 8 "Unexpected trailing content: '&(b, c'" := by
    decide +kernel
  obtain ⟨taken, rest, -, -, hposition, -, hlongest⟩ := (parse_error_position hs).2 hident
  obtain ⟨-, hrefused⟩ := (parse_error_position hparenthesis).1 hnone
  refine ⟨hs, hparenthesis, herror, fun w p hw hok => ?_, hrefused⟩
  rw [herror] at hposition
  obtain ⟨hbytes, -⟩ := QueryError.parse.inj hposition
  rw [hbytes]
  refine hlongest w p ?_ hok
  rwa [htrim, String.toList_ofList]

end Expression

end ParamSql
