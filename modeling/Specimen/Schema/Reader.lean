import Specimen.Schema
import Specimen.Yaml.Node.Reader

/-!
# Reading schemas

A schema is a document with one table for everything that has fields. A field that may be left out has
its default, a field with a name that is not known is skipped, and a known field must not come back.
Where a text is asked for, any scalar will do; a text or a mode that may be left out is left out by a
scalar that stands for nothing, too.
-/

namespace Specimen.Schema

open Specimen.Yaml

/-- The fields of a table, of which no known one comes back. -/
def fields? (known : List String) (node : Node) : Option (List (String × Node)) :=
  node.fields?.filter fun fields =>
    ((fields.map Prod.fst).filter (known.contains ·)).Nodup

/-- A field that may be left out. -/
def optional? {α : Type} (fields : List (String × Node)) (name : String) (default : α)
    (read? : Node → Option α) : Option α :=
  match fields.lookup name with
  | some node => read? node
  | none => some default

/-- A field that has to be there. -/
def required? {α : Type} (fields : List (String × Node)) (name : String)
    (read? : Node → Option α) : Option α :=
  (fields.lookup name).bind read?

/-- A value that a node may leave out. -/
def maybe? {α : Type} (read? : Node → Option α) (node : Node) : Option (Option α) :=
  node.isPresent?.bind fun present => if present then (read? node).map some else some none

/-- The items of a list. -/
def all? {α : Type} (read? : Node → Option α) (node : Node) : Option (List α) :=
  node.items?.bind fun items => items.mapM read?

/-- A mode. -/
def mode? (node : Node) : Option Mode := node.choice?.bind Mode.ofName?

/-- A member. -/
def member? (node : Node) : Option Member := do
  let fields ← fields? ["name", "type", "accessor", "category"] node
  let name ← optional? fields "name" none (maybe? Node.text?)
  let type ← required? fields "type" Node.text?
  let accessor ← optional? fields "accessor" .stored fun node =>
    node.choice?.bind Accessor.ofName?
  let category ← optional? fields "category" none (maybe? Node.text?)
  return { name, type, accessor, category }

/-- A slot. -/
def slot? (node : Node) : Option Slot := do
  let fields ← fields? ["name", "type"] node
  let name ← optional? fields "name" none (maybe? Node.text?)
  let type ← required? fields "type" Node.text?
  return { name, type }

/-- A constructor. -/
def constructor? (node : Node) : Option Constructor := do
  let fields ← fields? ["name", "parameters"] node
  let name ← required? fields "name" Node.text?
  let parameters ← optional? fields "parameters" [] (all? slot?)
  return { name, parameters }

/-- A case. -/
def case? (node : Node) : Option Case := do
  let fields ← fields? ["name", "payload"] node
  let name ← required? fields "name" Node.text?
  let payload ← optional? fields "payload" [] (all? slot?)
  return { name, payload }

/-- A directive. -/
def directive? (node : Node) : Option Directive := do
  let fields ← fields? ["count", "mode"] node
  let count ← required? fields "count" Node.integer?
  let mode ← optional? fields "mode" none (maybe? mode?)
  return { count, mode }

/-- A declaration. -/
def declaration? (node : Node) : Option Declaration := do
  let fields ← fields? ["name", "kind", "sample", "members", "constructors", "cases"] node
  let name ← required? fields "name" Node.text?
  let kind ← required? fields "kind" fun node => node.choice?.bind Kind.ofName?
  let sample ← required? fields "sample" directive?
  let members ← optional? fields "members" [] (all? member?)
  let constructors ← optional? fields "constructors" [] (all? constructor?)
  let cases ← optional? fields "cases" [] (all? case?)
  return { name, kind, sample, members, constructors, cases }

/-- The defaults. -/
def defaults? (node : Node) : Option Defaults := do
  let standard : Defaults := {}
  let fields ← fields? ["mode", "member", "data_crate"] node
  let mode ← optional? fields "mode" standard.mode mode?
  let member ← optional? fields "member" standard.member Node.text?
  let dataCrate ← optional? fields "data_crate" standard.dataCrate Node.text?
  return { mode, member, dataCrate }

/-- A number of 32 bits. -/
def version? (node : Node) : Option Nat := node.natural?.filter (· < Nat.pow 2 32)

/-- The parts of a schema. -/
structure Parts where
  version : Nat
  defaults : Defaults
  externalTypes : List String
  types : List Declaration

/-- Reads the parts of a schema. -/
def parts? (node : Node) : Option Parts := do
  let fields ← fields? ["version", "defaults", "external_types", "types"] node
  let version ← optional? fields "version" 1 version?
  let defaults ← optional? fields "defaults" {} defaults?
  let externalTypes ← optional? fields "external_types" [] (all? Node.text?)
  let types ← required? fields "types" (all? declaration?)
  return { version, defaults, externalTypes, types }

/-- Reads a schema from text. -/
def read (text : String) : Except Error Schema :=
  match (Node.read? text).bind parts? with
  | some parts => ofParts parts.version parts.defaults parts.externalTypes parts.types
  | none => .error .malformed

end Specimen.Schema
