import TlvSchema.Number.Binary

/-!
# JSON values

* `Json` — the values; an object lists its entries in ascending order of the keys
* `Json.get?` — the value of a key
* `Json.insertEntry` — adding an entry to an object
-/

namespace TlvSchema

/-- A JSON value. -/
inductive Json where
  /-- The value null. -/
  | null
  /-- A truth value. -/
  | bool (b : Bool)
  /-- A number without fraction and exponent, of at most 64 bits. -/
  | integer (n : Int)
  /-- Any other number. -/
  | float (x : Binary64)
  /-- A text. -/
  | string (text : String)
  /-- A list of values. -/
  | array (items : List Json)
  /-- A table of values. -/
  | object (entries : List (String × Json))
deriving Inhabited, Repr, BEq

namespace Json

/-- The value of a key; a value that is no object has no keys. -/
def get? (key : String) : Json → Option Json
  | .object entries => entries.lookup key
  | _ => none

/-- The value has the key. -/
def hasKey (key : String) (j : Json) : Bool := (j.get? key).isSome

/-- The text of a string. -/
def text? : Json → Option String
  | .string text => some text
  | _ => none

/-- Put an entry at its place among entries in ascending order; an entry with the same key goes. -/
def insertEntry (key : String) (value : Json) : List (String × Json) → List (String × Json)
  | [] => [(key, value)]
  | e :: es =>
    if key < e.1 then (key, value) :: e :: es
    else if key = e.1 then (key, value) :: es
    else e :: insertEntry key value es

/-- The object with the entries given; of two entries with one key the last one counts. -/
def ofEntries (entries : List (String × Json)) : Json :=
  .object (entries.foldl (fun es e => insertEntry e.1 e.2 es) [])

mutual

/-- How many arrays and objects lie inside each other at most. -/
def depth : Json → Nat
  | .array items => listDepth items + 1
  | .object entries => entriesDepth entries + 1
  | _ => 0

/-- The greatest depth of several values. -/
def listDepth : List Json → Nat
  | [] => 0
  | j :: js => max j.depth (listDepth js)

/-- The greatest depth of the values of several entries. -/
def entriesDepth : List (String × Json) → Nat
  | [] => 0
  | (_, j) :: es => max j.depth (entriesDepth es)

end

end Json

end TlvSchema
