import TypeTokenWrappers.Wrapper.Basic

/-! # JSON output

Values are printed over several lines, two blanks deeper at each level, with the
fields of an object in the order in which they are listed. An array or object
without members takes no line break. -/

namespace TypeTokenWrappers

inductive JsonValue where
  | null
  | text (value : String)
  | array (items : List JsonValue)
  | object (fields : List (String × JsonValue))

namespace JsonValue

def escape (char : Char) : List Char :=
  match char with
  | '"' => ['\\', '"']
  | '\\' => ['\\', '\\']
  | '\x08' => ['\\', 'b']
  | '\x0c' => ['\\', 'f']
  | '\n' => ['\\', 'n']
  | '\r' => ['\\', 'r']
  | '\t' => ['\\', 't']
  | _ =>
    if char.toNat < 0x20 then
      ['\\', 'u', '0', '0', Nat.digitChar (char.toNat / 16), Nat.digitChar (char.toNat % 16)]
    else [char]

def quote (text : String) : String :=
  String.ofList ('"' :: text.toList.flatMap escape ++ ['"'])

def lineBreak (level : Nat) : String :=
  "\n" ++ String.ofList (List.replicate (2 * level) ' ')

def enclose (opening closing : String) (level : Nat) (members : List String) : String :=
  match members with
  | [] => opening ++ closing
  | _ =>
    opening ++ lineBreak (level + 1) ++ ("," ++ lineBreak (level + 1)).intercalate members ++
      lineBreak level ++ closing

mutual
/-- The text of a value inside `level` arrays and objects. -/
def printAt (level : Nat) : JsonValue → String
  | .null => "null"
  | .text value => quote value
  | .array items => enclose "[" "]" level (printItems (level + 1) items)
  | .object fields => enclose "\x7b" "\x7d" level (printFields (level + 1) fields)

def printItems (level : Nat) : List JsonValue → List String
  | [] => []
  | item :: items => printAt level item :: printItems level items

def printFields (level : Nat) : List (String × JsonValue) → List String
  | [] => []
  | (name, value) :: fields =>
    (quote name ++ ": " ++ printAt level value) :: printFields level fields
end

def print (value : JsonValue) : String :=
  printAt 0 value

/-! Wrappers as JSON. -/

def ofTypeParameter (parameter : TypeParameter) : JsonValue :=
  .object [("name", .text parameter.name),
    ("bounds", match parameter.bounds with | some bounds => .text bounds | none => .null)]

def ofWrapper (wrapper : Wrapper) : JsonValue :=
  .object [
    ("type_parameter_name", .text wrapper.typeParameterName),
    ("extended_type_type_parameters",
      .array (wrapper.extendedTypeParameters.map ofTypeParameter)),
    ("extended_type", .text wrapper.extendedType),
    ("function_name", .text wrapper.functionName),
    ("return_type", .text wrapper.returnType),
    ("parameters",
      .array (wrapper.parameters.map fun (name, type) => .array [.text name, .text type]))]

end JsonValue

end TypeTokenWrappers
