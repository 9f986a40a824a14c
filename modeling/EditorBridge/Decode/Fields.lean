import EditorBridge.Decode.Basic

/-!
# Decoders of records

`Fields α` describes the fields of a record in the order of their declaration, and how a value of
`α` is made of them.  A record is read from an object by the names of its fields, or from an array
by their order (`Fields.record`).  Two faults compete in this way:

* in an object, the first member, in the order of the object, that does not decode; after that,
  the first field in the order of declaration that is missing;
* in an array, the first item that does not decode or is missing; after that, items left over.

A flattened part of a record takes its members from the object of the whole record and has no
array form (`Fields.flattened`).
-/

namespace EditorBridge

/-- The fields of a record, in the order of their declaration. -/
structure Fields (α : Type) where
  /-- How many fields there are. -/
  arity : Nat
  /-- What is wrong with a member, if it is one of the fields. -/
  fault? : Source → String → Json → Option DecodeError
  /-- The record with the members of an object; the error is the one of the first field that is
  missing or does not decode. -/
  fromMembers : Source → List (String × Json) → Except DecodeError α
  /-- The record with the first items of an array, and the items left over.  A missing item is an
  error for its position, counted from the given one. -/
  fromItems : Source → (Nat → DecodeError) → Nat → List Json →
    Except DecodeError (α × List Json)

namespace Fields

variable {α β : Type}

/-- No fields. -/
protected def pure (x : α) : Fields α where
  arity := 0
  fault? _ _ _ := none
  fromMembers _ _ := .ok x
  fromItems _ _ _ items := .ok (x, items)

/-- The fields of two parts, one after the other. -/
protected def seq (f : Fields (α → β)) (x : Fields α) : Fields β where
  arity := f.arity + x.arity
  fault? source key j := (f.fault? source key j).or (x.fault? source key j)
  fromMembers source ms :=
    match f.fromMembers source ms with
    | .error e => .error e
    | .ok g => (x.fromMembers source ms).map g
  fromItems source short i items :=
    match f.fromItems source short i items with
    | .error e => .error e
    | .ok (g, rest) =>
      match x.fromItems source short (i + f.arity) rest with
      | .error e => .error e
      | .ok (a, rest) => .ok (g a, rest)

instance : Applicative Fields where
  pure := Fields.pure
  seq f x := Fields.seq f (x ())

/-- A field.  `absent` is its value when an object has no such member, `short` its value when an
array ends before it; without them that is an error. -/
def field (name : String) (decode : Decoder α) (absent short : Option α) : Fields α where
  arity := 1
  fault? source key j :=
    if key = name then
      match decode source j with
      | .error e => some e
      | .ok _ => none
    else none
  fromMembers source ms :=
    match ms.lookup name with
    | some j => decode source j
    | none =>
      match absent with
      | some x => .ok x
      | none => .error (.missingField name)
  fromItems source short? i items :=
    match items with
    | j :: rest => (decode source j).map (·, rest)
    | [] =>
      match short with
      | some x => .ok (x, [])
      | none => .error (short? i)

/-- A field that must be there. -/
def required (name : String) (decode : Decoder α) : Fields α :=
  field name decode none none

/-- A field that has a value of its own when it is not there. -/
def withDefault (name : String) (decode : Decoder α) (value : α) : Fields α :=
  field name decode (some value) (some value)

/-- A field that may be `null`, or not be there in an object. -/
def optional (name : String) (decode : Decoder α) : Fields (Option α) :=
  field name (Decoder.nullable decode) (some none) none

/-- A field that may be `null`, or not be there. -/
def omissible (name : String) (decode : Decoder α) : Fields (Option α) :=
  field name (Decoder.nullable decode) (some none) (some none)

/-- A field of any value, `null` when it is not there in an object. -/
def value (name : String) : Fields Json :=
  field name Decoder.any (some .null) none

/-- A field of any value, `null` when it is not there. -/
def omissibleValue (name : String) : Fields Json :=
  field name Decoder.any (some .null) (some .null)

/-- The record with the members of an object. -/
def ofMembers (fields : Fields α) (source : Source) (ms : List (String × Json)) :
    Except DecodeError α :=
  match fields.fromMembers source ms with
  | .ok x => .ok x
  -- A member that does not decode comes before a field that is missing.
  | .error e => .error ((ms.findSome? fun m => fields.fault? source m.1 m.2).getD e)

/-- The record with the items of an array, of which none may be left over. -/
def ofItems (fields : Fields α) (name : String) (source : Source) (items : List Json) :
    Except DecodeError α :=
  match fields.fromItems source (.wrongLength · (.recordOf name fields.arity)) 0 items with
  | .error e => .error e
  | .ok (x, []) => .ok x
  | .ok (_, _ :: _) =>
    .error (.wrongLength items.length
      (match source with
      | .inPlace => .fewerItems
      | .gathered => .itemsInSequence fields.arity))

/-- A record, from an object or an array. -/
def record (fields : Fields α) (name : String) : Decoder α
  | source, .obj ms => fields.ofMembers source ms
  | source, .arr items => fields.ofItems name source items
  | _, j => .error (.wrongType (.of j) (.record name))

/-- A record that has flattened parts: its own fields first, then the parts, which `parts` takes
from the members of the same object. -/
def flattened (own : Fields α) (parts : α → List (String × Json) → Except DecodeError β)
    (name : String) : Decoder β
  | source, .obj ms =>
    match own.ofMembers source ms with
    | .error e => .error e
    | .ok x => parts x ms
  | _, j => .error (.wrongType (.of j) (.record name))

end Fields

end EditorBridge
