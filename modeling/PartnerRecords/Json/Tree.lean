import PartnerRecords.Json.Token
import PartnerRecords.Json.Value

/-!
# Trees of the data format

A tree is a document as it is written: members in order, names repeated, and holes where a
number or a text has no value. It is assembled from tokens with a stack of its own, so that
deep nesting is no limit; a limit applies where a tree is read as a value.
-/

namespace PartnerRecords.Json

inductive Tree
  | null
  | boolean (value : Bool)
  | number (value : Option Number)
  | text (value : Option String)
  | list (items : List Tree)
  | object (members : List (Option String × Tree))
deriving BEq, Repr, Inhabited

/-- An unfinished list or object, last part first. -/
inductive Frame
  | items (done : List Tree)
  | members (done : List (Option String × Tree)) (name : Option String)

/-- What may come next. -/
inductive Assembly
  | valueDue (outer : List Frame)
  | itemOrEnd (outer : List Frame)
  | nameDue (done : List (Option String × Tree)) (outer : List Frame)
  | nameOrEnd (outer : List Frame)
  | colonDue (done : List (Option String × Tree)) (name : Option String) (outer : List Frame)
  | complete (tree : Tree) (outer : List Frame)

namespace Assembly

/-- Reads a token where a value is due. -/
def begin (outer : List Frame) : Token → Option Assembly
  | .null => some (.complete .null outer)
  | .boolean value => some (.complete (.boolean value) outer)
  | .number value => some (.complete (.number value) outer)
  | .text value => some (.complete (.text value) outer)
  | .openList => some (.itemOrEnd outer)
  | .openObject => some (.nameOrEnd outer)
  | _ => none

/-- Reads a token after a value that is part of something. -/
def continue? (tree : Tree) : List Frame → Token → Option Assembly
  | .items done :: outer, .comma => some (.valueDue (.items (tree :: done) :: outer))
  | .items done :: outer, .closeList => some (.complete (.list (tree :: done).reverse) outer)
  | .members done name :: outer, .comma => some (.nameDue ((name, tree) :: done) outer)
  | .members done name :: outer, .closeObject =>
      some (.complete (.object ((name, tree) :: done).reverse) outer)
  | _, _ => none

def step : Assembly → Token → Option Assembly
  | .valueDue outer, token => begin outer token
  | .itemOrEnd outer, .closeList => some (.complete (.list []) outer)
  | .itemOrEnd outer, token => begin (.items [] :: outer) token
  | .nameOrEnd outer, .closeObject => some (.complete (.object []) outer)
  | .nameOrEnd outer, .text name => some (.colonDue [] name outer)
  | .nameDue done outer, .text name => some (.colonDue done name outer)
  | .colonDue done name outer, .colon => some (.valueDue (.members done name :: outer))
  | .complete tree outer, token => continue? tree outer token
  | _, _ => none

def result? : Assembly → Option Tree
  | .complete tree [] => some tree
  | _ => none

end Assembly

namespace Tree

def ofTokens? (tokens : List Token) : Option Tree :=
  (tokens.foldlM Assembly.step (.valueDue [])).bind Assembly.result?

/-- The tree of a text that holds one value and nothing after it. -/
def parse? (text : String) : Option Tree :=
  (tokens? text.toList).bind ofTokens?

/-- The value of a tree that nests lists and objects at most so deep. -/
def value? : Nat → Tree → Option Value
  | _, .null => some .null
  | _, .boolean value => some (.boolean value)
  | _, .number value => value.map .number
  | _, .text value => value.map .text
  | 0, .list _ => none
  | 0, .object _ => none
  | depth + 1, .list items => (items.mapM (value? depth)).map .list
  | depth + 1, .object members =>
      (members.mapM fun (member : Option String × Tree) => do
        let name ← member.1
        let value ← value? depth member.2
        return (name, value)).map Value.ofMembers

end Tree

/-- The deepest nesting that is read. -/
def depthLimit : Nat := 127

/-- The value of a text. -/
def Value.parse? (text : String) : Option Value :=
  (Tree.parse? text).bind (Tree.value? depthLimit)

namespace Value

mutual

/-- The tree of a value. -/
def tree : Value → Tree
  | .null => .null
  | .boolean value => .boolean value
  | .number value => .number (some value)
  | .text value => .text (some value)
  | .list items => .list (treesAfter [] items)
  | .object members => .object (memberTreesAfter [] members)

/-- The trees of items, after others whose last comes first. -/
def treesAfter (done : List Tree) : List Value → List Tree
  | [] => done.reverse
  | item :: rest => treesAfter (tree item :: done) rest

def memberTreesAfter (done : List (Option String × Tree)) :
    List (String × Value) → List (Option String × Tree)
  | [] => done.reverse
  | (name, value) :: rest => memberTreesAfter ((some name, tree value) :: done) rest

end

theorem treesAfter_eq (done : List Tree) (items : List Value) :
    treesAfter done items = done.reverse ++ items.map tree := by
  induction items generalizing done with
  | nil => simp [treesAfter]
  | cons item rest ih => simp [treesAfter, ih]

theorem memberTreesAfter_eq (done : List (Option String × Tree))
    (members : List (String × Value)) :
    memberTreesAfter done members =
      done.reverse ++ members.map fun member => (some member.1, member.2.tree) := by
  induction members generalizing done with
  | nil => simp [memberTreesAfter]
  | cons member rest ih =>
      obtain ⟨name, value⟩ := member
      simp [memberTreesAfter, ih]

end Value

end PartnerRecords.Json
