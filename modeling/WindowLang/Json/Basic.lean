namespace WindowLang

/-!
# JSON values

The values of JSON, with the order of an object's fields. All numbers here are
natural numbers.
-/

/-- A JSON value. -/
inductive Json where
  | null
  | bool (value : Bool)
  | number (value : Nat)
  | string (text : String)
  | array (items : List Json)
  | object (fields : List (String × Json))
  deriving Repr

end WindowLang
