/-!
# Validation

Data from outside is checked part by part, and everything that is wrong with it is reported at
once.  An `Issue` is a problem and the path of the part that has it.  `Validated` is a value that
passed all checks or the list of issues; two validated parts are combined by `<*>`, which keeps the
issues of both, in order.
-/

namespace GenericSignature

/-- What can be wrong with a part of a document or of the settings. -/
inductive Problem where
  | required
  | notText
  | notList
  /-- Not an object of the named kind. -/
  | notObject (kind : String)
  | notInteger
  /-- A whole number with more digits than are read. -/
  | tooManyDigits
  | belowMinimum (bound : Int)
  | aboveMaximum (bound : Int)
  | notBoolean
  /-- Not one of the allowed words. -/
  | notWord (allowed : List String)
deriving DecidableEq, Repr, Inhabited

/-- The wording of a problem. -/
def Problem.message : Problem → String
  | required => "Field required"
  | notText => "Input should be a valid string"
  | notList => "Input should be a valid list"
  | notObject kind => "Input should be a valid dictionary or instance of " ++ kind
  | notInteger => "Input should be a valid integer, unable to parse string as an integer"
  | tooManyDigits => "Unable to parse input string as an integer, exceeded maximum size"
  | belowMinimum bound => "Input should be greater than or equal to " ++ toString bound
  | aboveMaximum bound => "Input should be less than or equal to " ++ toString bound
  | notBoolean => "Input should be a valid boolean, unable to interpret input"
  | notWord allowed =>
      "String should match pattern '^(" ++ String.intercalate "|" allowed ++ ")$'"

/-- A problem and where it is: the names and numbers that lead to the part. -/
structure Issue where
  path : List String
  problem : Problem
deriving DecidableEq, Repr, Inhabited

/-- The wording of an issue: the path, divided by dots, and the problem. -/
def Issue.message (issue : Issue) : String :=
  String.intercalate "." issue.path ++ ": " ++ issue.problem.message

/-- The wording of a list of issues. -/
def describeIssues (issues : List Issue) : String :=
  String.intercalate "; " (issues.map Issue.message)

/-- A checked value, or everything that is wrong with it. -/
inductive Validated (α : Type) where
  | valid (value : α)
  | invalid (issues : List Issue)
deriving Repr

namespace Validated

variable {α β : Type}

/-- One problem with the whole value. -/
def problem (problem : Problem) : Validated α := invalid [⟨[], problem⟩]

/-- The check of a part that is reached by a name: the name leads to all its issues. -/
def under (name : String) : Validated α → Validated α
  | valid value => valid value
  | invalid issues =>
      invalid (issues.map fun issue => { issue with path := name :: issue.path })

/-- Combines two checks; if both fail, the issues of the first come first. -/
protected def seq (first : Validated (α → β)) (second : Validated α) : Validated β :=
  match first, second with
  | valid f, valid value => valid (f value)
  | valid _, invalid issues => invalid issues
  | invalid issues, valid _ => invalid issues
  | invalid issues, invalid more => invalid (issues ++ more)

instance : Applicative Validated where
  pure := valid
  seq first second := first.seq (second ())

/-- Checks all items of a list, each under its number. -/
def items (check : α → Validated β) (values : List α) : Validated (List β) :=
  (values.mapIdx fun i value => (check value).under (toString i)).foldr
    (fun head tail => List.cons <$> head <*> tail) (valid [])

end Validated

end GenericSignature
