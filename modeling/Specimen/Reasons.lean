/-!
# Reasons of refusals

Names, paths, types and documents are read by readers that tell in their own words why they refuse a
text. The words belong to the readers, so they are taken as given: `Reasons` says what each reader tells
of every text. Whatever shows them works for all readers, and nothing but the wording depends on them.
-/

namespace Specimen

/-- What the readers tell of a text that they refuse, if they tell anything. -/
class Reasons where
  /-- Why a text is no name. -/
  ofName : String → Option String
  /-- Why a text is no path. -/
  ofPath : String → Option String
  /-- Why a text is no type. -/
  ofType : String → Option String
  /-- Why a text is no document with a schema. -/
  ofDocument : String → Option String

namespace Reasons

/-- Readers that refuse without a word, where nothing else is said. -/
instance (priority := low) silent : Reasons :=
  ⟨fun _ => none, fun _ => none, fun _ => none, fun _ => none⟩

/-- A reason as it stands at the end of a message. -/
def ending : Option String → String
  | some reason => s!": {reason}"
  | none => ""

end Reasons

end Specimen
