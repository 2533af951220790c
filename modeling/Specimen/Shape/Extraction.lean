import Specimen.Category.Reader
import Specimen.Diagnostic
import Specimen.Shape
import Specimen.TypeRef.Reader

/-!
# Shapes of declarations

The shape of an enum has all its cases. A struct with constructors is made by the one with the most
parameters, the first of them if there are several, and its parameters have no categories; a struct
without any is made from its stored members. A shape needs every type and every category in it to be
readable, and the first one that is not is the reason why there is none.

The categories on members are checked apart from that (`categoryDiagnostics`), because each of them
may be wrong in its own way, and all are reported.
-/

namespace Specimen

/-- Why a declaration has no shape, and the member it was found at. -/
structure ShapeError where
  member : Option String := none
  fault : Fault
  deriving DecidableEq, Repr

/-- The diagnostic of a declaration without a shape. -/
def ShapeError.diagnostic (error : ShapeError) (type : String) : Diagnostic :=
  .ofFault error.fault ⟨type, error.member⟩

/-- Reads the type of a member. -/
def readType (text : String) : Except Fault TypeRef :=
  match TypeRef.read text with
  | .ok type => .ok type
  | .error _ => .error (.typeNotSupported (Text.trimmed text))

/-- Reads the category of a member. -/
def readCategory (token : String) : Except Fault Category :=
  match Category.read token with
  | .ok category => .ok category
  | .error _ => .error (.categoryNotSupported (Text.trimmed token))

/-- Reads the category of a member that may have none. -/
def readCategory? : Option String → Except Fault (Option Category)
  | none => .ok none
  | some token => (readCategory token).map some

/-- A result that is found at a member. -/
def foundAt {α : Type} (member : String) (result : Except Fault α) : Except ShapeError α :=
  result.mapError fun fault => ⟨some member, fault⟩

/-- Reads a slot of the constructor or the case `owner`. -/
def Slot.parameter (owner : String) (slot : Slot) : Except ShapeError Parameter :=
  (foundAt owner (readType slot.type)).map fun type => { name := slot.name, type }

/-- Reads the member at a position. -/
def Member.parameter (member : Member) (index : Nat) : Except ShapeError Parameter :=
  foundAt (member.displayName index) do
    let type ← readType member.type
    let category ← readCategory? member.category
    return { name := member.name, type, category }

namespace Declaration

/-- Whether samples can be made of declarations of this kind. -/
def checkKind (declaration : Declaration) : Except Fault Unit :=
  match declaration.kind with
  | .struct | .enum => .ok ()
  | kind => .error (.notSampled declaration.name kind)

/-- The constructor with the most parameters, the first of several. -/
def widest? : List Constructor → Option Constructor
  | [] => none
  | c :: cs => some (cs.foldl (fun best c =>
      if best.parameters.length ≥ c.parameters.length then best else c) c)

/-- The shape of a case. -/
def caseShape (c : Case) : Except ShapeError CaseShape :=
  (c.payload.mapM (Slot.parameter c.name)).map fun payload => ⟨c.name, payload⟩

/-- The members that take part in construction. -/
def storedMembers (declaration : Declaration) : List Member :=
  declaration.members.filter fun member => member.accessor.isStored

/-- The shape of an enum. -/
def enumShape (declaration : Declaration) : Except ShapeError Shape :=
  if declaration.cases.isEmpty then .error { fault := .noCases }
  else (declaration.cases.mapM caseShape).map fun cases => .enum declaration.name cases

/-- The shape of a struct. -/
def structShape (declaration : Declaration) : Except ShapeError Shape :=
  match widest? declaration.constructors with
  | some c =>
    (c.parameters.mapM (Slot.parameter c.name)).map fun parameters =>
      .struct declaration.name (.constructor c.name) parameters
  | none =>
    let stored := declaration.storedMembers
    let tuple := !stored.isEmpty && stored.all fun member => member.name.isNone
    (stored.zipIdx.mapM fun ((member, index) : Member × Nat) => member.parameter index).map
        fun parameters =>
      .struct declaration.name (.fields tuple) parameters

/-- The shape of a declaration. -/
def shape (declaration : Declaration) : Except ShapeError Shape :=
  match declaration.checkKind with
  | .error fault => .error { fault }
  | .ok () =>
    match declaration.kind with
    | .enum => declaration.enumShape
    | _ => declaration.structShape

/-! ## Categories on members -/

/-- What a category does not fit, if the member's type can be read: its innermost type. -/
def misfit? (category : Category) (member : Member) : Option Fault :=
  match TypeRef.read member.type with
  | .error _ => none
  | .ok type =>
    if type.leaf.scalar?.any category.isCompatible then none
    else some (.categoryMismatch category type.leaf.text)

/-- What is to be said about the category of the member at a position. -/
def memberDiagnostics (type : String) (mode : Mode) (member : Member) (index : Nat) :
    List Diagnostic :=
  match member.category with
  | none => []
  | some token =>
    let name := member.displayName index
    let fault := fun (fault : Fault) => Diagnostic.ofFault fault ⟨type, some name⟩
    if !member.accessor.isStored then [fault .notStored]
    else
      match readCategory token with
      | .error e => [fault e]
      | .ok category =>
        ((misfit? category member).map fault).toList
          ++ match mode with
            | .fixed => [.redundantCategory type name]
            | .randomized => []

/-- What is to be said about the categories on the members of a struct. -/
def categoryDiagnostics (declaration : Declaration) (mode : Mode) : List Diagnostic :=
  match declaration.kind with
  | .struct =>
    declaration.members.zipIdx.flatMap fun (member, index) =>
      memberDiagnostics declaration.name mode member index
  | _ => []

end Declaration

end Specimen
