import ConsulLookup.Text.Quoted

/-! Validation issues: where a bag went wrong and what was wrong. -/

namespace ConsulLookup

/-- What is wrong with one input. -/
inductive Problem where
  | missing
  | extra
  | keyNotText
  | notText
  | textEncoding
  | notFlag
  | flagText
  | notInteger
  | integerText
  | integerFraction
  | integerSize
  | notFinite
  | notChoice (choices : List String)
  | notMapping
  | notModel (model : String)
  | refused (reason : String)
  deriving DecidableEq, Repr

/-- The choices of a literal field as a message lists them: quoted, joined by commas, the last
after `or`. -/
def choiceList : List String → String
  | [] => ""
  | [c] => Text.quote c
  | [c, d] => Text.quote c ++ " or " ++ Text.quote d
  | c :: rest => Text.quote c ++ ", " ++ choiceList rest

/-- The message of a problem. -/
def Problem.message : Problem → String
  | .missing => "Field required"
  | .extra => "Extra inputs are not permitted"
  | .keyNotText => "Keys should be strings"
  | .notText => "Input should be a valid string"
  | .textEncoding => "Input should be a valid string, unable to parse raw data as a unicode string"
  | .notFlag => "Input should be a valid boolean"
  | .flagText => "Input should be a valid boolean, unable to interpret input"
  | .notInteger => "Input should be a valid integer"
  | .integerText => "Input should be a valid integer, unable to parse string as an integer"
  | .integerFraction => "Input should be a valid integer, got a number with a fractional part"
  | .integerSize => "Unable to parse input string as an integer, exceeded maximum size"
  | .notFinite => "Input should be a finite number"
  | .notChoice choices => "Input should be " ++ choiceList choices
  | .notMapping => "Input should be a valid dictionary"
  | .notModel model => "Input should be a valid dictionary or instance of " ++ model
  | .refused reason => "Value error, " ++ reason

/-- One issue: where, as a path of keys, and what. -/
structure Issue where
  loc : List String
  problem : Problem
  deriving DecidableEq, Repr

/-- An issue as a line: the location joined by dots, or `options` when that is empty. -/
def Issue.render (i : Issue) : String :=
  let place := ".".intercalate i.loc
  (if place.isEmpty then "options" else place) ++ ": " ++ i.problem.message

/-- The issues of a failed validation, joined by `"; "`. -/
def renderIssues (issues : List Issue) : String :=
  "; ".intercalate (issues.map Issue.render)

example : choiceList ["any", "passing", "warning", "critical"] =
    "'any', 'passing', 'warning' or 'critical'" := by
  decide +kernel

end ConsulLookup
