import Packrat.Value.Basic

/-!
# Object models

Typed sequences build their objects through an `ObjectModel`: it knows the slots of each type,
which types are concrete, which types implement which, and how an object is made and written.

* `ObjectModel`: the capability itself.
* `RecordModel`: record types with ordered slots, abstract types, and declared bases.
* `RecordModel.implements`: the reflexive and transitive closure of the declared bases, found by a
  search that expands each type once.
* `RecordModel.toObjectModel`: the capability that a record model gives.
-/

namespace Packrat

/-- A slot that cannot be written. -/
structure SlotError where
  /-- The type of the object, or the kind of the value that is none. -/
  ty : String
  /-- The slot that was to be written. -/
  slot : String
  deriving Repr, DecidableEq

/-- The wording of a refused write. -/
def SlotError.message (e : SlotError) : String :=
  "cannot write slot `" ++ e.slot ++ "` on `" ++ e.ty ++ "`"

/-- What the compiler and the machine need to know about object types. -/
structure ObjectModel where
  /-- The slots of a type in order, if the type is known. -/
  slots : String → Option (List String)
  /-- Whether objects of the type can be made. -/
  isConcrete : String → Bool
  /-- Whether the first type is the second one or has it among its bases. -/
  implements : String → String → Bool
  /-- A new object of a type, if objects of it can be made. -/
  construct : String → Option Value
  /-- An object with one slot written. -/
  writeSlot : Value → String → Value → Except SlotError Value

/-! ## Record models -/

/-- What a record model knows about one type. -/
structure TypeDecl where
  /-- The name of the type. -/
  name : String
  /-- Its slots in order. -/
  slots : List String
  /-- Whether objects of it can be made. -/
  concrete : Bool
  /-- The bases declared for it, in order. -/
  bases : List String
  deriving Repr, DecidableEq

/-- Record types, abstract types and their declared bases; one declaration for each name. -/
structure RecordModel where
  /-- The declarations. -/
  types : List TypeDecl
  deriving Repr, DecidableEq

namespace RecordModel

/-- The model without types. -/
def empty : RecordModel := ⟨[]⟩

/-- The declaration of a type. -/
def find? (m : RecordModel) (ty : String) : Option TypeDecl :=
  m.types.find? (fun decl => decl.name == ty)

/-- The bases declared for a type; none for one that is not declared. -/
def basesOf (m : RecordModel) (ty : String) : List String :=
  match m.find? ty with
  | some decl => decl.bases
  | none => []

/-- Declare a type anew; the bases it had so far are kept. -/
def declare (m : RecordModel) (ty : String) (slots : List String) (concrete : Bool) :
    RecordModel :=
  ⟨⟨ty, slots, concrete, m.basesOf ty⟩ :: m.types.filter (fun decl => decl.name != ty)⟩

/-- Declare a type whose objects have the given slots. -/
def record (m : RecordModel) (ty : String) (slots : List String) : RecordModel :=
  m.declare ty slots true

/-- Declare a type without objects and slots. -/
def abstractType (m : RecordModel) (ty : String) : RecordModel :=
  m.declare ty [] false

/-- Declare that a type has a base. A type that is not declared yet becomes an abstract one. -/
def withBase (m : RecordModel) (ty base : String) : RecordModel :=
  match m.find? ty with
  | some decl =>
    ⟨{ decl with bases := decl.bases ++ [base] } ::
      m.types.filter (fun other => other.name != ty)⟩
  | none => ⟨⟨ty, [], false, [base]⟩ :: m.types⟩

/-- Search for `base` among the types of `pending` and the bases they lead to, expanding no type
of `visited` again. The pending type that was added last comes first: the bases of a type are
looked at from the last to the first, and before what was pending. -/
def search (m : RecordModel) (base : String) :
    (fuel : Nat) → (visited pending : List String) → Bool
  | 0, _, _ => false
  | _ + 1, _, [] => false
  | fuel + 1, visited, current :: pending =>
    if current = base then true
    else if visited.contains current then m.search base fuel visited pending
    else m.search base fuel (current :: visited) ((m.basesOf current).reverse ++ pending)

/-- How many bases are declared in all; each is looked at once at most. -/
def baseCount (m : RecordModel) : Nat :=
  m.types.foldr (fun decl count => decl.bases.length + count) 0

/-- Whether a type is the given base or reaches it by declared bases. -/
def implements (m : RecordModel) (ty base : String) : Bool :=
  m.search base (m.baseCount + 2) [] [ty]

/-- A new object of a declared concrete type. -/
def construct (m : RecordModel) (ty : String) : Option Value :=
  match m.find? ty with
  | some decl => if decl.concrete then some (.node ty #[]) else none
  | none => none

/-- An object of a declared type with one of its slots written. -/
def writeSlot (m : RecordModel) (object : Value) (slot : String) (value : Value) :
    Except SlotError Value :=
  match object with
  | .node ty fields =>
    match m.find? ty with
    | some decl =>
      if decl.slots.contains slot then .ok (.node ty (Fields.set fields slot value))
      else .error ⟨ty, slot⟩
    | none => .error ⟨ty, slot⟩
  | other => .error ⟨other.typeName, slot⟩

/-- The capability that a record model gives. -/
def toObjectModel (m : RecordModel) : ObjectModel where
  slots := fun ty => (m.find? ty).map TypeDecl.slots
  isConcrete := fun ty => ((m.find? ty).map TypeDecl.concrete).getD false
  implements := m.implements
  construct := m.construct
  writeSlot := m.writeSlot

end RecordModel

end Packrat
