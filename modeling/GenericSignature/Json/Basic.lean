/-!
# JSON values

Values of the JSON data format.  Whole numbers are kept as such; a number with a fraction or an
exponent, and the three words for what is not a finite number, are kept as they are written,
because nothing here computes with them.  The members of an object are kept in the order of the
text; if a name comes twice, the last member with it counts.
-/

namespace GenericSignature

/-- A JSON value. -/
inductive Json where
  | null
  | bool (value : Bool)
  /-- A whole number. -/
  | int (value : Int)
  /-- Any other number, as it is written. -/
  | decimal (written : String)
  | str (value : String)
  | arr (items : List Json)
  | obj (members : List (String × Json))
deriving Repr, Inhabited

namespace Json

/-- The word for the kind of a value. -/
def kind : Json → String
  | null => "NoneType"
  | bool _ => "bool"
  | int _ => "int"
  | decimal _ => "float"
  | str _ => "str"
  | arr _ => "list"
  | obj _ => "dict"

/-- The value of the last member with a name. -/
def member? (members : List (String × Json)) (name : String) : Option Json :=
  (members.filter fun entry => entry.1 == name).getLast?.map Prod.snd

/-- A list of texts. -/
def texts (values : List String) : Json := arr (values.map str)

end Json

end GenericSignature
