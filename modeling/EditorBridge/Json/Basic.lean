import EditorBridge.Number.Double

/-!
# JSON values

A number is an integer or a double; the two differ even where they are equal in value.  The
members of an object are kept by increasing key, which is the order of the keys' UTF-8 bytes:
`insertMember` keeps that order and replaces the value of a key that is there already, and
`ofMembers` builds an object with it.

`record` builds the object of named fields, some of which may be left out.
-/

namespace EditorBridge

/-- A JSON value. -/
inductive Json where
  | null
  | bool (b : Bool)
  | int (i : Int)
  | float (x : Double)
  | str (s : String)
  | arr (items : List Json)
  | obj (members : List (String × Json))
deriving Inhabited, Repr

namespace Json

/-! ### Equality -/

mutual

/-- Whether two values are the same. -/
def same : Json → Json → Bool
  | .null, .null => true
  | .bool a, .bool b => a == b
  | .int a, .int b => a == b
  | .float a, .float b => decide (a = b)
  | .str a, .str b => a == b
  | .arr a, .arr b => sameItems a b
  | .obj a, .obj b => sameMembers a b
  | _, _ => false

/-- Whether two lists hold the same values in the same order. -/
def sameItems : List Json → List Json → Bool
  | [], [] => true
  | a :: as, b :: bs => same a b && sameItems as bs
  | _, _ => false

/-- Whether two lists hold the same members in the same order. -/
def sameMembers : List (String × Json) → List (String × Json) → Bool
  | [], [] => true
  | (k, a) :: as, (l, b) :: bs => k == l && (same a b && sameMembers as bs)
  | _, _ => false

end

mutual

/-- `same` finds exactly the equal values. -/
theorem same_iff : ∀ a b : Json, same a b = true ↔ a = b
  | .null, b => by cases b <;> simp [same]
  | .bool _, b => by cases b <;> simp [same]
  | .int _, b => by cases b <;> simp [same]
  | .float _, b => by cases b <;> simp [same]
  | .str _, b => by cases b <;> simp [same]
  | .arr xs, b => by cases b <;> simp [same, sameItems_iff xs]
  | .obj ms, b => by cases b <;> simp [same, sameMembers_iff ms]

theorem sameItems_iff : ∀ as bs : List Json, sameItems as bs = true ↔ as = bs
  | [], bs => by cases bs <;> simp [sameItems]
  | a :: as, bs => by cases bs <;> simp [sameItems, same_iff a, sameItems_iff as]

theorem sameMembers_iff :
    ∀ as bs : List (String × Json), sameMembers as bs = true ↔ as = bs
  | [], bs => by cases bs <;> simp [sameMembers]
  | (k, a) :: as, bs => by
    cases bs with
    | nil => simp [sameMembers]
    | cons b bs => obtain ⟨l, b⟩ := b; simp [sameMembers, same_iff a, sameMembers_iff as, and_assoc]

end

instance : DecidableEq Json := fun a b =>
  decidable_of_iff (same a b = true) (same_iff a b)

/-! ### Kinds -/

/-- Whether the value is `null`. -/
def isNull : Json → Bool
  | .null => true
  | _ => false

/-- Whether the value is an array. -/
def isArray : Json → Bool
  | .arr _ => true
  | _ => false

/-- The kind of a value, in words. -/
def kind : Json → String
  | .null => "null"
  | .bool _ => "a boolean"
  | .int _ => "a number"
  | .float _ => "a number"
  | .str _ => "a string"
  | .arr _ => "an array"
  | .obj _ => "an object"

/-! ### Values from plain data -/

/-- The JSON of a natural number of 32 bits. -/
def ofUInt32 (n : UInt32) : Json :=
  .int n.toNat

/-- The JSON of an integer of 32 bits. -/
def ofInt32 (i : Int32) : Json :=
  .int i.toInt

/-- A list as JSON, item by item. -/
def ofList {α : Type} (toJson : α → Json) (xs : List α) : Json :=
  .arr (xs.map toJson)

/-! ### Objects -/

/-- The value of a key of an object; none for any other value. -/
def get? (key : String) : Json → Option Json
  | .obj members => members.lookup key
  | _ => none

/-- Adds a member at its place by key, or replaces the one with that key. -/
def insertMember (key : String) (value : Json) :
    List (String × Json) → List (String × Json)
  | [] => [(key, value)]
  | (k, v) :: rest =>
    if key < k then (key, value) :: (k, v) :: rest
    else if key = k then (key, value) :: rest
    else (k, v) :: insertMember key value rest

/-- The members by key; of two with one key the later counts. -/
def sortMembers (members : List (String × Json)) : List (String × Json) :=
  members.foldl (fun sorted m => insertMember m.1 m.2 sorted) []

/-- The object with these members. -/
def ofMembers (members : List (String × Json)) : Json :=
  .obj (sortMembers members)

/-- The object of those fields that have a value. -/
def record (fields : List (String × Option Json)) : Json :=
  ofMembers (fields.filterMap fun field => field.2.map (field.1, ·))

/-- A value that is left out of a record when it is `null`. -/
def unlessNull : Json → Option Json
  | .null => none
  | value => some value

end Json

end EditorBridge
