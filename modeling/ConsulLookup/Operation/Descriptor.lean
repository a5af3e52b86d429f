import ConsulLookup.Options.Schema

/-! Operation descriptors: how to call an operation and what its options are. -/

namespace ConsulLookup

/-- Texts sorted by code point, each once. -/
def sortedSet (xs : List String) : List String :=
  xs.eraseDups.mergeSort fun a b => !Text.pointsBefore b a

/-- An operation and how to call it. -/
structure Descriptor where
  name : String
  method : String
  schema : Schema
  aliases : List String
  arguments : List String
  keywords : List String
  fixed : Bag
  description : String

namespace Descriptor

/-- A descriptor with its alias and keyword sets sorted. -/
def make (name method : String) (schema : Schema) (aliases arguments keywords : List String)
    (fixed : Bag) (description : String) : Descriptor :=
  ⟨name, method, schema, sortedSet aliases, arguments, sortedSet keywords, fixed, description⟩

/-- Whether the operation answers blocking queries with an index. -/
def blocking (d : Descriptor) : Bool :=
  d.keywords.contains "index"

/-- The names an operation answers to: its own, then its aliases in order. -/
def names (d : Descriptor) : List String :=
  d.name :: d.aliases

/-- The required fields of the operation's options, in field order. -/
def requiredOptions (d : Descriptor) : List String :=
  (d.schema.fields.filter Field.isRequired).map (·.name)

/-- The operation's own fields that are not required, in field order. -/
def optionalOptions (d : Descriptor) : List String :=
  (d.schema.fields.filter fun f => !f.isRequired && !Schema.isShared f.name).map (·.name)

end Descriptor

end ConsulLookup
