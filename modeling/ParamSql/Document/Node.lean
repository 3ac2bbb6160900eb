/-!
# Document trees

A document is a tree of scalars, lists and records.  The members of a record keep
their order, and a key may occur more than once.

A tree is also how a reader reports a text that is not well formed: as far as the
text goes, the tree is there, and where the text breaks off the tree holds `broken`.
What reads the tree in document order then meets the break exactly when it gets
there, and may find something else to object to before.  Two lesser faults do not
break a text but cannot be decoded either: a scalar without a value and a container
nested too deeply are `marred`, and a member whose key is no text is `unlabelled`.
Both may stand in a value that nothing looks at.

## Main definitions

* `Document.Node`
* `Node.wellFormed`: nothing breaks off, so the node can be passed over
* `Node.readable`: no fault at all, so the node can be held back for later
* `Node.depth`: how deeply containers are nested
-/

namespace ParamSql.Document

/-- A node of a document. -/
inductive Node where
  | null
  | bool (b : Bool)
  | int (n : Int)
  | real (x : Float)
  | text (s : String)
  | list (items : List Node)
  | record (members : List (String × Node))
  /-- a well-formed node that has no value, or is nested too deeply -/
  | marred (node : Node)
  /-- the value of a member whose key is well formed but is no text -/
  | unlabelled (node : Node)
  /-- the text is not well formed from here on -/
  | broken
deriving Repr, Inhabited

namespace Node

mutual

/-- Whether the text of the node is well formed throughout. -/
def wellFormed : Node → Bool
  | list items => allWellFormed items
  | record members => membersWellFormed members
  | marred node => wellFormed node
  | unlabelled node => wellFormed node
  | broken => false
  | _ => true

def allWellFormed : List Node → Bool
  | [] => true
  | n :: ns => wellFormed n && allWellFormed ns

def membersWellFormed : List (String × Node) → Bool
  | [] => true
  | (_, n) :: ns => wellFormed n && membersWellFormed ns

end

mutual

/-- Whether the node holds no fault. -/
def readable : Node → Bool
  | list items => allReadable items
  | record members => membersReadable members
  | marred _ => false
  | unlabelled _ => false
  | broken => false
  | _ => true

def allReadable : List Node → Bool
  | [] => true
  | n :: ns => readable n && allReadable ns

def membersReadable : List (String × Node) → Bool
  | [] => true
  | (_, n) :: ns => readable n && membersReadable ns

end

mutual

/-- How many containers lie around the innermost scalar. -/
def depth : Node → Nat
  | list items => depthOfAll items + 1
  | record members => depthOfMembers members + 1
  | marred node => depth node
  | _ => 0

def depthOfAll : List Node → Nat
  | [] => 0
  | n :: ns => max (depth n) (depthOfAll ns)

def depthOfMembers : List (String × Node) → Nat
  | [] => 0
  | (_, n) :: ns => max (depth n) (depthOfMembers ns)

end

/-! ## Records -/

/-- The value of the first member of that key, in a record. -/
def get? (n : Node) (key : String) : Option Node :=
  match n with
  | record members => (members.find? (·.1 == key)).map (·.2)
  | _ => none

/-- Gives a key a value among members: the last value counts, in the place of the first. -/
def put (key : String) (value : Node) : List (String × Node) → List (String × Node)
  | [] => [(key, value)]
  | (k, v) :: rest => if k = key then (k, value) :: rest else (k, v) :: put key value rest

mutual

/-- The same tree with every key once in its record: the last value counts, in the
place of the first. -/
def lastWins : Node → Node
  | list items => list (lastWinsAll items)
  | record members => record (lastWinsMembers members [])
  | n => n

def lastWinsAll : List Node → List Node
  | [] => []
  | n :: ns => lastWins n :: lastWinsAll ns

def lastWinsMembers : List (String × Node) → List (String × Node) → List (String × Node)
  | [], found => found
  | (k, n) :: ns, found => lastWinsMembers ns (put k (lastWins n) found)

end

end Node

end ParamSql.Document
