import ConsulLookup.Operation.Catalogue

/-! Registries of operations, whose names and aliases share one namespace. -/

namespace ConsulLookup

/-- Why a list of descriptors makes no registry. -/
inductive RegistryError where
  /-- A canonical name that an earlier descriptor has as its canonical name. -/
  | duplicate (name : String)
  /-- A name of `operation` that `owner` claimed before. -/
  | claimed (name operation owner : String)
  deriving DecidableEq, Repr

/-- The message of a registry error. -/
def RegistryError.message : RegistryError → String
  | .duplicate name => "Duplicate operation: " ++ name
  | .claimed name operation owner =>
    "Operation name '" ++ name ++ "' of " ++ operation ++ " is already used by " ++ owner

/-- A lookup table from operation names and aliases to descriptors. -/
structure Registry where
  operations : List Descriptor

namespace Registry

/-- The first conflict of a list of descriptors, given the canonical names seen so far and the
names claimed so far with their owners. -/
def conflict? (seen : List String) (claimed : List (String × String)) :
    List Descriptor → Option RegistryError
  | [] => none
  | d :: rest =>
    if seen.contains d.name then some (.duplicate d.name)
    else
      match claimedIn claimed d.name d.names with
      | some (n, owner) => some (.claimed n d.name owner)
      | none => conflict? (d.name :: seen) (d.names.map (·, d.name) ++ claimed) rest
where
  /-- The first of `names` claimed before, by `claimed` or by an earlier name of the same
  descriptor `self`. -/
  claimedIn (claimed : List (String × String)) (self : String) :
      List String → Option (String × String)
    | [] => none
    | n :: more =>
      match claimed.lookup n with
      | some owner => some (n, owner)
      | none => claimedIn ((n, self) :: claimed) self more

/-- Builds a registry, refusing a name claimed twice. -/
def build (ds : List Descriptor) : Except RegistryError Registry :=
  match conflict? [] [] ds with
  | some e => .error e
  | none => .ok ⟨ds⟩

/-- The descriptor a name or alias resolves to. -/
def resolve (r : Registry) (n : String) : Option Descriptor :=
  r.operations.find? fun d => d.names.contains n

/-- Whether a name or alias resolves. -/
def contains (r : Registry) (n : String) : Bool :=
  (r.resolve n).isSome

/-- The canonical names in order. -/
def names (r : Registry) : List String :=
  r.operations.map (·.name)

/-- The registry of the built-in operations. -/
def builtin : Registry :=
  ⟨Catalogue.operations⟩

end Registry

end ConsulLookup
