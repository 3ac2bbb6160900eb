import ParamSql.Proofs.Expression.Ending
import ParamSql.Proofs.Expression.Writing

/-!
# Expressions as tokens

An expression is a sequence of tokens, which the grammar puts together without a word about blanks:

    node   ::=  leaf ('&' group)* ('|' group)*
    group  ::=  '(' node (',' node)* ')'  |  leaf
    leaf   ::=  fold op? '?'?
    fold   ::=  'upper(lower(' path '))'  |  'lower(' path ')'  |  'upper(' path ')'  |  path
    path   ::=  ident ('.' ident)?

The tokens are written one after the other with a run of blanks in front of each of them.  Behind
the blanks in front of it, what is written for a node is a node of the grammar of texts, as long as
no blanks stand around a point: there that grammar has none.

## Main definitions

* `Token`, `Token.text`
* `Spelled.Path`, `Spelled.Fold`, `Spelled.Leaf`, `Spelled.Group`, `Spelled.Node`: what a sequence
  of tokens denotes
* `written`: tokens with the blanks in front of them as a text
* `Spaced`: runs of blanks, with none around a point

## Main results

* `Spelled.Node.induction`: induction over nodes, those inside parentheses included
* `Spelled.Node.derives`: what is written for a node denotes the same predicate
-/

namespace ParamSql.Expression

/-! ## Tokens -/

/-- What an expression is put together of. -/
inductive Token where
  | upperLower
  | lower
  | upper
  | ident (name : String)
  | point
  | op (c : Comparison)
  | mark
  | and
  | or
  | opening
  | comma
  | closing
  | closingTwice
deriving DecidableEq

namespace Token

/-- The token as it is written. -/
def text : Token → List Char
  | upperLower => "upper(lower(".toList
  | lower => "lower(".toList
  | upper => "upper(".toList
  | ident name => name.toList
  | point => ['.']
  | op c => c.symbol.toList
  | mark => ['?']
  | and => ['&']
  | or => ['|']
  | opening => ['(']
  | comma => [',']
  | closing => [')']
  | closingTwice => "))".toList

@[simp]
theorem text_ident (name : String) : (ident name).text = name.toList := rfl

@[simp]
theorem text_point : point.text = ['.'] := rfl

end Token

/-- The tokens one after the other, each of them behind a run of characters. -/
def written (gap : Nat → List Char) : List Token → List Char
  | [] => []
  | t :: ts => gap 0 ++ (t.text ++ written (fun i => gap (i + 1)) ts)

/-! ## Spelling -/

namespace Spelled

/-- A column, with a table in front of it or without. -/
inductive Path : List Token → Expression.Path → Prop where
  | column {name : String} (h : IsIdentifier name) : Path [.ident name] ⟨none, name⟩
  | qualified {table name : String} (ht : IsIdentifier table) (hn : IsIdentifier name) :
      Path [.ident table, .point, .ident name] ⟨some table, name⟩

/-- A path with the folding of letter case around it; the leaf compares by `=`. -/
inductive Fold : List Token → ParamSql.Leaf → Prop where
  | both {ts : List Token} {p : Expression.Path} (h : Path ts p) :
      Fold (.upperLower :: (ts ++ [.closingTwice])) ⟨p.column, p.table, .eq, true, true⟩
  | lower {ts : List Token} {p : Expression.Path} (h : Path ts p) :
      Fold (.lower :: (ts ++ [.closing])) ⟨p.column, p.table, .eq, true, false⟩
  | upper {ts : List Token} {p : Expression.Path} (h : Path ts p) :
      Fold (.upper :: (ts ++ [.closing])) ⟨p.column, p.table, .eq, false, true⟩
  | plain {ts : List Token} {p : Expression.Path} (h : Path ts p) :
      Fold ts ⟨p.column, p.table, .eq, false, false⟩

/-- A question mark, or nothing at all. -/
inductive Mark : List Token → Prop where
  | mark : Mark [.mark]
  | missing : Mark []

/-- A comparison of a column with a value to come. -/
inductive Leaf : List Token → ParamSql.Leaf → Prop where
  | compared {ts us : List Token} {l : ParamSql.Leaf} (fold : Fold ts l) (op : Comparison)
      (last : Mark us) : Leaf (ts ++ .op op :: us) { l with op := op }
  | equal {ts us : List Token} {l : ParamSql.Leaf} (fold : Fold ts l) (last : Mark us) :
      Leaf (ts ++ us) { l with op := .eq }

section Sequences

variable {α : Type}

/-- Any number of things in a row. -/
inductive Star (item : List Token → α → Prop) : List Token → List α → Prop where
  | nil : Star item [] []
  | cons {ts us : List Token} {a : α} {as : List α} (head : item ts a) (tail : Star item us as) :
      Star item (ts ++ us) (a :: as)

/-- A symbol and something behind it. -/
inductive Behind (sign : Token) (item : List Token → α → Prop) : List Token → α → Prop where
  | behind {ts : List Token} {a : α} (h : item ts a) : Behind sign item (sign :: ts) a

end Sequences

/-- Nodes in parentheses with commas between them, or one leaf. -/
inductive Group (node : List Token → Predicate → Prop) : List Token → List Predicate → Prop where
  | nodes {ts us : List Token} {p : Predicate} {ps : List Predicate} (first : node ts p)
      (others : Star (Behind .comma node) us ps) :
      Group node (.opening :: (ts ++ (us ++ [.closing]))) (p :: ps)
  | leaf {ts : List Token} {l : ParamSql.Leaf} (h : Leaf ts l) : Group node ts [⟨l, [], []⟩]

/-- A leaf with the groups behind `&` and the groups behind `|`, the nodes of each in a row. -/
inductive Node : List Token → Predicate → Prop where
  | node {ts us vs : List Token} {l : ParamSql.Leaf} {ands ors : List (List Predicate)}
      (leaf : Leaf ts l) (conjuncts : Star (Behind .and (Group Node)) us ands)
      (disjuncts : Star (Behind .or (Group Node)) vs ors) :
      Node (ts ++ (us ++ vs)) ⟨l, ands.flatten, ors.flatten⟩

/-- **What holds of the nodes that are put together holds of every node**; of the nodes inside
parentheses it may be supposed. -/
theorem Node.induction {motive : List Token → Predicate → Prop}
    (node : ∀ {ts us vs : List Token} {l : ParamSql.Leaf} {ands ors : List (List Predicate)},
      Leaf ts l → Star (Behind .and (Group motive)) us ands →
      Star (Behind .or (Group motive)) vs ors →
      motive (ts ++ (us ++ vs)) ⟨l, ands.flatten, ors.flatten⟩)
    {ts : List Token} {p : Predicate} (h : Node ts p) : motive ts p :=
  -- One motive for each place where a node may stand.
  @Node.rec
    (fun ts p _ => motive ts p)
    (fun us ands _ => Star (Behind .and (Group motive)) us ands)
    (fun vs ors _ => Star (Behind .or (Group motive)) vs ors)
    (fun us ps _ => Behind .and (Group motive) us ps)
    (fun vs ps _ => Behind .or (Group motive) vs ps)
    (fun ts ps _ => Group motive ts ps)
    (fun us ps _ => Star (Behind .comma motive) us ps)
    (fun us p _ => Behind .comma motive us p)
    (fun leaf _ _ hc hd => node leaf hc hd)
    .nil (fun _ _ head tail => .cons head tail)
    .nil (fun _ _ head tail => .cons head tail)
    (fun _ group => .behind group)
    (fun _ group => .behind group)
    (fun _ _ first others => .nodes first others)
    (fun leaf => .leaf leaf)
    .nil (fun _ _ head tail => .cons head tail)
    (fun _ node => .behind node) _ _ h

end Spelled

/-! ## Blanks -/

/-- Every run is of blanks. -/
def Blank (gap : Nat → List Char) : Prop := ∀ i, (gap i).all isBlank = true

/-- No blanks stand around a point: neither in front of it nor in front of what is behind it. -/
def Tight (gap : Nat → List Char) (ts : List Token) : Prop :=
  ∀ i, ts[i]? = some .point → gap i = [] ∧ gap (i + 1) = []

/-- Runs of blanks, with none around a point. -/
structure Spaced (gap : Nat → List Char) (ts : List Token) : Prop where
  blank : Blank gap
  tight : Tight gap ts

section Writing

variable {gap : Nat → List Char} {t : Token} {ts us : List Token}

theorem written_append (gap : Nat → List Char) (ts us : List Token) :
    written gap (ts ++ us) =
      written gap ts ++ written (fun i => gap (i + ts.length)) us := by
  induction ts generalizing gap with
  | nil => rfl
  | cons t ts ih =>
    rw [List.cons_append, written, ih, written, List.append_assoc, List.append_assoc]
    rfl

theorem Spaced.tail (h : Spaced gap (t :: ts)) : Spaced (fun i => gap (i + 1)) ts where
  blank i := h.blank (i + 1)
  tight i hi := h.tight (i + 1) (by simpa using hi)

theorem Spaced.left (h : Spaced gap (ts ++ us)) : Spaced gap ts where
  blank := h.blank
  tight i hi := h.tight i (by
    obtain ⟨hlt, hpoint⟩ := List.getElem?_eq_some_iff.mp hi
    rw [List.getElem?_append_left hlt, hi])

theorem Spaced.right (h : Spaced gap (ts ++ us)) : Spaced (fun i => gap (i + ts.length)) us where
  blank i := h.blank (i + ts.length)
  tight i hi := by
    have hpoint := h.tight (i + ts.length) (by
      rw [List.getElem?_append_right (Nat.le_add_left ..), Nat.add_sub_cancel, hi])
    rwa [Nat.add_right_comm] at hpoint

/-- In front of a token there is its run, which may be taken as blanks. -/
theorem Blank.written (h : Blank gap) (t : Token) (ts : List Token) (rest : List Char) :
    Grammar.Blanks (written gap (t :: ts) ++ rest)
      (t.text ++ (written (fun i => gap (i + 1)) ts ++ rest)) :=
  ⟨gap 0, h 0, by rw [Expression.written, List.append_assoc, List.append_assoc]⟩

theorem Blank.written_one (h : Blank gap) (t : Token) (rest : List Char) :
    Grammar.Blanks (Expression.written gap [t] ++ rest) (t.text ++ rest) :=
  h.written t [] rest

end Writing

theorem isIdentRest_of_isBlank {c : Char} (h : isBlank c = true) : isIdentRest c = false := by
  rw [← Bool.not_eq_true]
  intro hc
  have hwhite := isWhiteSpace_of_isBlank h
  rw [isWhiteSpace_of_isIdentRest hc] at hwhite
  cases hwhite

/-- Behind an identifier there may be blanks. -/
theorem EndsIdentifier.of_blanks {cs rest : List Char} (h : EndsIdentifier rest)
    (hb : Grammar.Blanks cs rest) : EndsIdentifier cs := by
  obtain ⟨run, hrun, rfl⟩ := hb
  cases run with
  | nil => exact h
  | cons c run =>
    rintro d ⟨⟩
    exact isIdentRest_of_isBlank (List.all_eq_true.mp hrun _ List.mem_cons_self)

theorem endsIdentifier_symbol (op : Comparison) (cs : List Char) :
    EndsIdentifier (op.symbol.toList ++ cs) := by
  cases op <;> exact endsIdentifier_cons (by decide) (by decide) _

/-! ## From tokens to texts -/

namespace Spelled

section Writes

variable {α : Type} {gap : Nat → List Char} {rest : List Char} {ts : List Token}

/-- Behind blanks, what is written for the tokens is admitted by the rule with the same value, in
front of everything that continues no identifier. -/
def Writes (item : List Token → α → Prop) (rule : Grammar.Rule α) : Prop :=
  ∀ ⦃ts a⦄, item ts a → ∀ ⦃gap rest⦄, Spaced gap ts → EndsIdentifier rest →
    ∃ cs, Grammar.Blanks (written gap ts ++ rest) cs ∧ rule cs a rest

theorem writes_path : Writes Path Grammar.Path := by
  rintro _ _ (h | ⟨ht, hn⟩) gap rest hs hr
  · next name =>
    have hbefore := hs.blank.written_one (.ident name) rest
    exact ⟨name.toList ++ rest, hbefore, .column (h.ident hr)⟩
  · next table name =>
    obtain ⟨hbefore, hafter⟩ := hs.tight 1 rfl
    have htext : written gap [.ident table, .point, .ident name] ++ rest =
        gap 0 ++ (table.toList ++ '.' :: (name.toList ++ rest)) := by
      simp [written, hbefore, hafter]
    have hends : EndsIdentifier ('.' :: (name.toList ++ rest)) :=
      endsIdentifier_cons (by decide) (by decide) _
    exact ⟨_, ⟨gap 0, hs.blank 0, htext⟩, .qualified (ht.ident hends) (hn.ident hr)⟩

theorem writes_enclosed {p : Expression.Path} (opening closing : String) {t u : Token}
    (h : Path ts p) (ht : t.text = opening.toList) (hu : u.text = closing.toList)
    (hclosing : EndsIdentifier (closing.toList ++ rest)) (hs : Spaced gap (t :: (ts ++ [u]))) :
    ∃ cs, Grammar.Blanks (written gap (t :: (ts ++ [u])) ++ rest) cs ∧
      Grammar.Enclosed opening closing cs p rest := by
  have hclose := hs.tail.right.blank.written_one u rest
  rw [hu] at hclose
  obtain ⟨cs, before, hpath⟩ := writes_path h hs.tail.left (hclosing.of_blanks hclose)
  refine ⟨_, hs.blank.written t _ rest, ?_⟩
  rw [ht, written_append, List.append_assoc]
  exact .between before hpath hclose

theorem writes_fold : Writes Fold Grammar.Fold := by
  have hclose : ∀ cs, EndsIdentifier (')' :: cs) := endsIdentifier_cons (by decide) (by decide)
  rintro _ _ (h | h | h | h) gap rest hs hr
  · obtain ⟨cs, hcs, hboth⟩ := writes_enclosed "upper(lower(" "))" h rfl rfl (hclose _) hs
    exact ⟨cs, hcs, .both hboth⟩
  · obtain ⟨cs, hcs, hlower⟩ := writes_enclosed "lower(" ")" h rfl rfl (hclose _) hs
    exact ⟨cs, hcs, .lower hlower⟩
  · obtain ⟨cs, hcs, hupper⟩ := writes_enclosed "upper(" ")" h rfl rfl (hclose _) hs
    exact ⟨cs, hcs, .upper hupper⟩
  · obtain ⟨cs, hcs, hpath⟩ := writes_path h hs hr
    exact ⟨cs, hcs, .plain hpath⟩

theorem writes_mark (h : Mark ts) (hs : Spaced gap ts) (hr : EndsIdentifier rest) :
    ∃ cs, Grammar.Blanks (written gap ts ++ rest) cs ∧ Grammar.Mark cs rest ∧
      EndsIdentifier cs := by
  cases h with
  | mark =>
    exact ⟨_, hs.blank.written_one .mark rest, .mark rest,
      endsIdentifier_cons (by decide) (by decide) rest⟩
  | missing => exact ⟨rest, .refl rest, .missing rest, hr⟩

theorem writes_leaf : Writes Leaf Grammar.Leaf := by
  rintro _ _ (⟨fold, op, last⟩ | ⟨fold, last⟩) gap rest hs hr
  · next ts us _ =>
    -- backwards, since an identifier is as long as it can be: what follows has to end it
    obtain ⟨r₄, after, hmark, -⟩ := writes_mark last hs.right.tail hr
    have before := hs.right.blank.written (.op op) us rest
    have hends := (endsIdentifier_symbol op _).of_blanks before
    obtain ⟨cs, hcs, hfold⟩ := writes_fold fold hs.left hends
    rw [← List.append_assoc, ← written_append] at hcs
    exact ⟨cs, hcs, .leaf hfold before (.symbol op _) after hmark⟩
  · obtain ⟨r₄, after, hmark, hends⟩ := writes_mark last hs.right hr
    obtain ⟨cs, hcs, hfold⟩ := writes_fold fold hs.left (hends.of_blanks after)
    rw [← List.append_assoc, ← written_append] at hcs
    exact ⟨cs, hcs, .leaf hfold (.refl _) (.missing _) after hmark⟩

/-! ### Nodes -/

section Sequences

variable {sign : Token} {c : Char} {item : List Token → α → Prop} {rule : Grammar.Rule α}

theorem Writes.behind (h : Writes item rule) (hsign : sign.text = [c]) {a : α}
    (hitem : Behind sign item ts a) (hs : Spaced gap ts) (hr : EndsIdentifier rest) :
    Grammar.Behind c rule (written gap ts ++ rest) a rest := by
  cases hitem with
  | behind hitem =>
    next us =>
    have before := hs.blank.written sign us rest
    obtain ⟨cs, after, hrule⟩ := h hitem hs.tail hr
    rw [hsign] at before
    exact .behind before after hrule

/-- In front of a sequence an identifier ends, and so does one in front of what is behind it. -/
theorem Writes.star (h : Writes item rule) (hsign : sign.text = [c])
    (hc : ∀ cs, EndsIdentifier (c :: cs)) {as : List α} (hstar : Star (Behind sign item) ts as)
    (hs : Spaced gap ts) (hr : EndsIdentifier rest) :
    Grammar.Star (Grammar.Behind c rule) (written gap ts ++ rest) as rest ∧
      EndsIdentifier (written gap ts ++ rest) := by
  induction hstar generalizing gap with
  | nil => exact ⟨.nil rest, hr⟩
  | cons head tail ih =>
    obtain ⟨htail, hends⟩ := ih hs.right
    have hhead := h.behind hsign head hs.left hends
    rw [← List.append_assoc, ← written_append] at hhead
    refine ⟨.cons hhead htail, ?_⟩
    obtain ⟨before, -, -⟩ := hhead
    exact (hc _).of_blanks before

end Sequences

theorem Writes.group {node : List Token → Predicate → Prop} {rule : Grammar.Rule Predicate}
    (h : Writes node rule) : Writes (Group node) (Grammar.Group rule) := by
  rintro _ _ (⟨first, others⟩ | leaf) gap rest hs hr
  · next ts us p ps =>
    have hclose : ∀ cs, EndsIdentifier (')' :: cs) := endsIdentifier_cons (by decide) (by decide)
    have hcomma : ∀ cs, EndsIdentifier (',' :: cs) := endsIdentifier_cons (by decide) (by decide)
    have hinner := hs.tail
    have hmore := hinner.right
    have after := hmore.right.blank.written_one .closing rest
    obtain ⟨hstar, hends⟩ := h.star rfl hcomma others hmore.left ((hclose rest).of_blanks after)
    obtain ⟨cs, before, hfirst⟩ := h first hinner.left hends
    refine ⟨_, hs.blank.written .opening _ rest, ?_⟩
    rw [written_append, written_append, List.append_assoc, List.append_assoc]
    exact .nodes before hfirst hstar after
  · obtain ⟨cs, hcs, hleaf⟩ := writes_leaf leaf hs hr
    exact ⟨cs, hcs, .leaf hleaf⟩

/-- **What is written for a node is a node** of the grammar of texts, behind blanks. -/
theorem writes_node : Writes Node Grammar.Node := by
  let motive : List Token → Predicate → Prop := fun ts p => ∀ ⦃gap rest⦄, Spaced gap ts →
    EndsIdentifier rest → ∃ cs, Grammar.Blanks (written gap ts ++ rest) cs ∧ Grammar.Node cs p rest
  intro ts p h
  refine Node.induction (motive := motive) (fun leaf conjuncts disjuncts => ?_) h
  intro gap rest hs hr
  have hand : ∀ cs, EndsIdentifier ('&' :: cs) := endsIdentifier_cons (by decide) (by decide)
  have hor : ∀ cs, EndsIdentifier ('|' :: cs) := endsIdentifier_cons (by decide) (by decide)
  have hgroup : Writes (Group motive) (Grammar.Group Grammar.Node) :=
    Writes.group fun _ _ hnode => hnode
  obtain ⟨hors, hends⟩ := hgroup.star rfl hor disjuncts hs.right.right hr
  obtain ⟨hands, hends⟩ := hgroup.star rfl hand conjuncts hs.right.left hends
  obtain ⟨cs, hcs, hleaf⟩ := writes_leaf leaf hs.left hends
  rw [← List.append_assoc, ← List.append_assoc, List.append_assoc (written gap _),
    ← written_append, ← written_append] at hcs
  exact ⟨cs, hcs, .node hleaf hands hors⟩

end Writes

/-- What is written for a node denotes the same predicate, behind blanks. -/
theorem Node.derives {gap : Nat → List Char} {ts : List Token} {p : Predicate} (h : Node ts p)
    (hs : Spaced gap ts) : ∃ cs, Grammar.Blanks (written gap ts) cs ∧ Derives cs p := by
  have hends : EndsIdentifier [] := nofun
  obtain ⟨cs, hcs, hnode⟩ := writes_node h hs hends
  rw [List.append_nil] at hcs
  exact ⟨cs, hcs, hnode⟩

end Spelled

end ParamSql.Expression
