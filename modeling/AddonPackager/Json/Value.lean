/-! JSON values. Numbers keep their text, so that reading decides what it can of them and no
more.
-/

namespace AddonPackager

/-- A JSON value. An object lists its members in file order, repeated names included. -/
inductive Json where
  | null
  | bool (value : Bool)
  | number (text : String)
  | string (value : String)
  | array (items : List Json)
  | object (members : List (String × Json))
  deriving Inhabited

/-- The last member of a name. -/
def Json.member? (name : String) : Json → Option Json
  | .object members => (members.reverse.find? (·.1 == name)).map (·.2)
  | _ => none

end AddonPackager
