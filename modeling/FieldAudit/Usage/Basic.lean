import FieldAudit.Usage.Node

/-!
# Usage of a value

What a body does with a value, recorded by access path: `["User", "Role"]` stands for the field
`Role` of the field `User`. A usage is a tree of nodes, one for each path that is recorded. Records
are made at the node of a path, which is created on demand together with the nodes above it.
-/

namespace FieldAudit

/-- The names selected one after the other, outermost value first. -/
abbrev Path := List String

/-- What is done with a value and the fields below it. -/
structure Usage where
  /-- The node of the value itself. -/
  node : UsageNode
  ordered : node.Ordered

namespace Usage

/-- A usage without direct fields. -/
def leaf (methods : NameSet) (whole : Bool) : Usage := ⟨.mk [] methods whole, .leaf methods whole⟩

instance : EmptyCollection Usage := ⟨leaf ∅ false⟩

instance : Inhabited Usage := ⟨∅⟩

/-- The value itself is consumed as a unit. -/
def unit : Usage := leaf ∅ true

/-- The value is the receiver of a method call. -/
def call (method : String) : Usage := leaf {method} false

/-- Whether the value itself is consumed as a unit. -/
def isWhole (u : Usage) : Bool := u.node.whole

/-- The methods called on the value itself. -/
def methods (u : Usage) : NameSet := u.node.methods

/-- The direct fields with a node. -/
def fieldNames (u : Usage) : NameSet where
  toList := u.node.children.map Prod.fst
  sorted := List.pairwise_map.2 u.ordered.sorted

/-- The usage of the value in the direct field of this name. -/
def field? (u : Usage) (name : String) : Option Usage :=
  (u.node.child? name).pmap Usage.mk fun _ h => u.ordered.child? h

/-- Whether the direct field of this name has a node. -/
def hasField (u : Usage) (name : String) : Bool := (u.field? name).isSome

/-- The usage of the value in the direct field of this name, an empty one if it has no node. -/
def sub (u : Usage) (name : String) : Usage := (u.field? name).getD ∅

/-- The union of both usages. -/
def merge (u v : Usage) : Usage := ⟨u.node.merge v.node, u.ordered.merge v.ordered⟩

/-- The merge of a list of usages. -/
def mergeAll (us : List Usage) : Usage := us.foldr merge ∅

/-- The usage with the usage of a direct field put in the place of what was there. -/
def setField (u : Usage) (name : String) (child : Usage) : Usage :=
  ⟨u.node.setChild name child.node, u.ordered.setChild name child.ordered⟩

/-- Adds a method to those called on the value itself. -/
def insertMethod (method : String) (u : Usage) : Usage :=
  ⟨.mk u.node.children (u.methods.insert method) u.isWhole, .mk u.ordered.sorted u.ordered.children⟩

/-- Changes the node at a path, which is created together with the nodes above it where it is not
    there. -/
def modifyAt (change : Usage → Usage) : Path → Usage → Usage
  | [], u => change u
  | name :: path, u => u.setField name (modifyAt change path (u.sub name))

/-- Adds the usage `v` of the value at a path. -/
def attach (u : Usage) (path : Path) (v : Usage) : Usage := u.modifyAt (·.merge v) path

/-- The usage `v` of the value at a path, as a usage of the value above it. -/
def below (path : Path) (v : Usage) : Usage := attach ∅ path v

/-- The usage with these records at the value and these usages of its direct fields. -/
def ofFields (whole : Bool) (methods : List String) (fields : List (String × Usage)) : Usage :=
  mergeAll ((if whole then unit else ∅) :: methods.map call
    ++ fields.map fun (name, u) => below [name] u)

/-- One step of recording. -/
inductive Recording where
  /-- A usage of the value at a path. -/
  | attach (path : Path) (v : Usage)
  /-- The node at a path, without more being said about it. -/
  | reach (path : Path)
  /-- A method called on the value at a path. -/
  | method (path : Path) (name : String)
  /-- A usage of the value itself. -/
  | merge (v : Usage)

/-- The usage after a step of recording. -/
def record (u : Usage) : Recording → Usage
  | .attach path v => u.attach path v
  | .reach path => u.modifyAt id path
  | .method path name => u.modifyAt (insertMethod name) path
  | .merge v => u.merge v

/-- The length of the longest recorded path. -/
def depth (u : Usage) : Nat := u.node.depth

/-- A direct field is a child of the node of the value. -/
theorem child?_of_field? {u child : Usage} {name : String} (h : u.field? name = some child) :
    u.node.child? name = some child.node := by
  obtain ⟨node, _, hn, rfl⟩ := Option.pmap_eq_some_iff.1 h
  exact hn

/-- Going down to a field shortens the recorded paths. -/
theorem depth_field?_lt {u child : Usage} {name : String} (h : u.field? name = some child) :
    child.depth < u.depth :=
  UsageNode.depth_child?_lt (child?_of_field? h)

end Usage

/-- What a body does with one variable. -/
structure VariableUsage where
  /-- Direct fields read or written. -/
  fields : NameSet := ∅
  /-- Methods called directly on the variable. -/
  methods : NameSet := ∅
  /-- Direct fields discarded by an assignment to the blank identifier. -/
  ignored : NameSet := ∅
  /-- All access paths, those of discarded fields included. -/
  tree : Usage := ∅
deriving Inhabited

namespace VariableUsage

instance : EmptyCollection VariableUsage := ⟨{}⟩

/-- The direct fields that count as handled. -/
def handled (u : VariableUsage) : NameSet := u.fields ∪ u.ignored

/-- The records of both usages. -/
def merge (u v : VariableUsage) : VariableUsage where
  fields := u.fields ∪ v.fields
  methods := u.methods ∪ v.methods
  ignored := u.ignored ∪ v.ignored
  tree := u.tree.merge v.tree

end VariableUsage

end FieldAudit
