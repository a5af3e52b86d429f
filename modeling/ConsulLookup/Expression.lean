import ConsulLookup.Value.Display
import ConsulLookup.Text.Blank

/-! Expressions `<operation>?<query>` and references `$<strategy>:<expression>`. -/

namespace ConsulLookup

/-- Why an expression cannot be split. -/
inductive ExpressionFault where
  | notText
  | empty
  | missingOperation
  deriving DecidableEq, Repr

/-- The reason given for a fault. -/
def ExpressionFault.reason : ExpressionFault → String
  | .notText => "expression must be a string"
  | .empty => "empty expression"
  | .missingOperation => "missing operation name"

/-- An expression that cannot be split, with the text it is shown as. -/
structure ExpressionError where
  expression : String
  fault : ExpressionFault
  deriving DecidableEq, Repr

/-- The message of an expression error, the expression quoted. -/
def ExpressionError.message (e : ExpressionError) : String :=
  "The supplied expression is invalid: " ++ Text.quote e.expression ++ " (" ++ e.fault.reason ++ ")"

namespace Expression

/-- Splits an expression text into its operation and its query. -/
def splitText (s : String) : Except ExpressionError (String × String) :=
  let t := Text.trimBlank s
  let cs := t.toList
  if cs.isEmpty then .error ⟨t, .empty⟩
  else
    match cs.span (· ≠ '?') with
    | (_, []) => .ok (t, "")
    | (before, _ :: query) =>
      let operation := Text.trimWith Text.isBlank before
      if operation.isEmpty then .error ⟨t, .missingOperation⟩
      else .ok (String.ofList operation, String.ofList query)

/-- Splits an expression; a value that is not a text is refused, shown in its written form. -/
def split : Value → Except ExpressionError (String × String)
  | .str s => splitText s
  | v => .error ⟨v.written, .notText⟩

end Expression

namespace Reference

/-- Whether a character may follow the first letter of a strategy. -/
def isStrategyChar (c : Char) : Bool :=
  c.isAlphanum || c = '_' || c = '-'

/-- The strategy and the expression of a reference `$<strategy>:<expression>`. -/
def split? (r : String) : Option (String × String) :=
  match r.toList with
  | '$' :: first :: rest =>
    if first.isAlpha then
      match rest.span isStrategyChar with
      | (more, ':' :: expression) =>
        some (String.ofList (first :: more), String.ofList expression)
      | _ => none
    else none
  | _ => none

/-- An expression given with or without the `$consul:` prefix, without it. -/
def stripConsul (r : String) : String :=
  match split? r with
  | some (strategy, expression) => if strategy = "consul" then expression else r
  | none => r

end Reference

end ConsulLookup
