import HelpQuery.Number.Layout

/-!
# JSON values

Objects keep the order of their members.  A number is kept as its text.
-/

namespace HelpQuery

inductive Json where
  | null
  | bool (b : Bool)
  | number (text : String)
  | string (text : String)
  | array (items : List Json)
  | object (members : List (String × Json))

namespace Json

/-- A number; what is not finite has no JSON form and becomes null. -/
def ofSingle (x : Single) : Json :=
  if x.isFinite then number (Layout.json.write x) else null

def strings (texts : List String) : Json := array (texts.map string)

end Json

end HelpQuery
