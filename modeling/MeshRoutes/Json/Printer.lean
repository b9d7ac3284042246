import MeshRoutes.Json.Basic
/-!
# Writing JSON text

The compact form: no blanks, and escapes only where the format demands them.
-/

namespace MeshRoutes.Json

/-- A character inside quotes. Quotes, backslashes and control characters are escaped. -/
def escape (c : Char) : String :=
  if c = '"' then "\\\""
  else if c = '\\' then "\\\\"
  else if c.toNat < 0x20 then
    let digits := Nat.toDigits 16 c.toNat
    "\\u" ++ String.ofList (List.replicate (4 - digits.length) '0' ++ digits)
  else c.toString

def quote (text : String) : String :=
  "\"" ++ String.join (text.toList.map escape) ++ "\""

mutual

def render : Json → String
  | null => "null"
  | boolean true => "true"
  | boolean false => "false"
  | integer n => toString n
  | decimal spelling => spelling
  | string text => quote text
  | array items => "[" ++ String.intercalate "," (renderItems items) ++ "]"
  | object members =>
    "\x7b" ++ String.intercalate "," (renderMembers members) ++ "\x7d"

def renderItems : List Json → List String
  | [] => []
  | item :: rest => item.render :: renderItems rest

def renderMembers : List (String × Json) → List String
  | [] => []
  | (key, value) :: rest => (quote key ++ ":" ++ value.render) :: renderMembers rest

end

end MeshRoutes.Json
