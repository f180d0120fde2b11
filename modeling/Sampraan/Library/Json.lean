import Mathlib.Tactic.Common

/-! JSON values, and what JavaScript sees of them. -/

namespace Sampraan.Library

/-- A number is given by its text. -/
inductive Json where
  | null
  | bool (value : Bool)
  | number (text : String)
  | string (value : String)
  | array (items : List Json)
  | object (fields : List (String × Json))

namespace Json

/-- `value[key]`, for a key that is no index; `none` is `undefined`. -/
def property (key : String) : Json → Option Json
  | .object fields => fields.lookup key
  | _ => none

/-- `typeof value === "object"` and `value` is not `null`. -/
def isObject : Json → Bool
  | .array _ => true
  | .object _ => true
  | _ => false

mutual

/-- `String(value)`. -/
def text : Json → String
  | .null => "null"
  | .bool value => if value then "true" else "false"
  | .number text => text
  | .string value => value
  | .array items => ",".intercalate (texts items)
  | .object _ => "[object Object]"

def texts : List Json → List String
  | [] => []
  | .null :: items => "" :: texts items
  | item :: items => item.text :: texts items

end

example : text (.array [.null, .array [.bool true, .string "x"]]) = ",true,x" := by decide

end Json

end Sampraan.Library
