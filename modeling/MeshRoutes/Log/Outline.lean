/-!
# Outlines

The text that a log shows of a value: a record as its name and its fields, a list between
brackets, an optional value as `Some` or `None`, and a string between quotes.
-/

namespace MeshRoutes.Log

inductive Outline where
  /-- A number, a truth value or the name of a constant. -/
  | word (text : String)
  | quoted (text : String)
  | wrapped (name : String) (content : Outline)
  | items (items : List Outline)
  | record (name : String) (fields : List (String × Outline))

namespace Outline

/-- The characters that quotes do not show as they are: the control characters. -/
def isControl (c : Char) : Bool := c.toNat < 0x20 || (0x7F ≤ c.toNat && c.toNat < 0xA0)

def escape (c : Char) : String :=
  if c = '"' then "\\\""
  else if c = '\\' then "\\\\"
  else if c = '\n' then "\\n"
  else if c = '\r' then "\\r"
  else if c = '\t' then "\\t"
  else if c = '\x00' then "\\0"
  else if isControl c then
    "\\u\x7b" ++ String.ofList (Nat.toDigits 16 c.toNat) ++ "\x7d"
  else c.toString

mutual

def render : Outline → String
  | word text => text
  | quoted text => "\"" ++ String.join (text.toList.map escape) ++ "\""
  | wrapped name content => name ++ "(" ++ content.render ++ ")"
  | items list => "[" ++ String.intercalate ", " (renderItems list) ++ "]"
  | record name fields =>
    name ++ " \x7b " ++ String.intercalate ", " (renderFields fields) ++ " \x7d"

def renderItems : List Outline → List String
  | [] => []
  | item :: rest => item.render :: renderItems rest

def renderFields : List (String × Outline) → List String
  | [] => []
  | (name, value) :: rest => (name ++ ": " ++ value.render) :: renderFields rest

end

example : (record "Point" [("x", word "1"), ("tags", items [quoted "a\"b", quoted "\x1b"])]).render =
    "Point \x7b x: 1, tags: [\"a\\\"b\", \"\\u\x7b1b\x7d\"] \x7d" := rfl

end Outline

/-- Types with an outline. -/
class Outlined (α : Type) where
  outline : α → Outline

export Outlined (outline)

instance : Outlined Bool := ⟨fun b => .word (if b then "true" else "false")⟩
instance : Outlined String := ⟨.quoted⟩
instance : Outlined UInt16 := ⟨fun n => .word (toString n.toNat)⟩
instance : Outlined UInt32 := ⟨fun n => .word (toString n.toNat)⟩
instance : Outlined UInt64 := ⟨fun n => .word (toString n.toNat)⟩
instance : Outlined Int64 := ⟨fun n => .word (toString n.toInt)⟩

instance [Outlined α] : Outlined (List α) := ⟨fun list => .items (list.map outline)⟩

instance [Outlined α] : Outlined (Option α) where
  outline
    | some a => .wrapped "Some" (outline a)
    | none => .word "None"

end MeshRoutes.Log
