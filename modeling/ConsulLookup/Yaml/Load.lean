import ConsulLookup.Yaml.Construct

/-! Loading a YAML text of at most one document. -/

namespace ConsulLookup.Yaml

/-- The data of the single document of a text with its root, none for an empty stream, or the
first fault; the root node is composed with `room` calls left. -/
def load (room : Nat) (text : String) : Except YamlError (Option (Store × Datum)) :=
  let chars := text.toList.toArray
  let fuel := chars.size + 2
  match (composeSingle fuel room).run (Parser.start chars) with
  | .error e => .error e
  | .ok (none, _) => .ok none
  | .ok (some graph, _) => graph.construct.map some

end ConsulLookup.Yaml
