/-! # TOML values

A document is a table. Numbers and dates matter only as far as they can make a
document unreadable: a number may lie outside the range that numbers have. -/

namespace TypeTokenWrappers.Toml

inductive Value where
  | string (text : String)
  /-- An integer; the value is missing where its digits spell none. -/
  | integer (value : Option Int)
  /-- A floating-point number; `finite` tells that it does not overflow, or is
  written as an infinity. -/
  | float (finite : Bool)
  | boolean (value : Bool)
  | dateTime
  | array (elements : List Value)
  | table (entries : List (String × Value))

def integerInRange (value : Int) : Bool :=
  -(Nat.pow 2 127 : Int) ≤ value && value < (Nat.pow 2 128 : Int)

/-! Whether every number in a value is one that can be represented. -/

mutual
def Value.inRange : Value → Bool
  | .integer value => value.any integerInRange
  | .float finite => finite
  | .array elements => allInRange elements
  | .table entries => entriesInRange entries
  | _ => true

def allInRange : List Value → Bool
  | [] => true
  | element :: others => element.inRange && allInRange others

def entriesInRange : List (String × Value) → Bool
  | [] => true
  | (_, value) :: others => value.inRange && entriesInRange others
end

end TypeTokenWrappers.Toml
