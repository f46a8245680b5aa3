import MagalixAgent.Go.Map

namespace MagalixAgent

/-! The trees of `interface{}` values the agent hands to `json.Marshal`: strings,
`float64`s, integers reached through an `*int`, maps with string keys and
slices. An object keeps its entries as the Go map holds them; `encoding/json`
writes them sorted by key, which no lookup below can observe. -/

/-- A value of a `map[string]interface{}` tree. -/
inductive JsonValue where
  | string (text : String)
  | float (value : Float)
  | int (value : Int64)
  | object (fields : List (String × JsonValue))
  | array (items : List JsonValue)

namespace JsonValue

/-- The value stored under `key` in an object. -/
def field : JsonValue → String → Option JsonValue
  | object fields, key => GoMap.lookup fields key
  | _, _ => none

/-- The value reached from `value` through a path of object keys. -/
def path (value : JsonValue) : List String → Option JsonValue
  | [] => some value
  | key :: keys => (value.field key).bind fun inner => inner.path keys

@[simp] theorem field_object (fields : List (String × JsonValue)) (key : String) :
    (object fields).field key = GoMap.lookup fields key := rfl

@[simp] theorem path_nil (value : JsonValue) : value.path [] = some value := rfl

@[simp] theorem path_cons (value : JsonValue) (key : String) (keys : List String) :
    value.path (key :: keys) = (value.field key).bind fun inner => inner.path keys := rfl

end JsonValue

end MagalixAgent
