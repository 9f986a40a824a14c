import EditorBridge.Decode.Error

/-!
# Decoders

A decoder turns a JSON value into a value of a type or says why it cannot.  `Source` tells
whether it sees the value at its place, or after the members of the object around it were
gathered; the two word one error in different ways.

This module holds the decoders of plain values, lists, maps, alternatives and plain variants.
The laws beside them say that what the matching encoder writes decodes to the same value.
-/

namespace EditorBridge

/-- How a value reaches its decoder. -/
inductive Source where
  | inPlace
  | gathered
deriving DecidableEq, Repr

/-- Decodes JSON values to values of a type. -/
abbrev Decoder (α : Type) := Source → Json → Except DecodeError α

namespace Decoder

variable {α : Type}

/-- Any value, as it is. -/
def any : Decoder Json := fun _ j => .ok j

/-- A string. -/
def string : Decoder String
  | _, .str s => .ok s
  | _, j => .error (.wrongType (.of j) .string)

/-- A boolean. -/
def bool : Decoder Bool
  | _, .bool b => .ok b
  | _, j => .error (.wrongType (.of j) .boolean)

/-- A natural number of 32 bits. -/
def uint32 : Decoder UInt32
  | _, .int i =>
    if 0 ≤ i ∧ i < UInt32.size then .ok (UInt32.ofNat i.toNat)
    else .error (.wrongValue (.integer i) .u32)
  | _, j => .error (.wrongType (.of j) .u32)

/-- An integer of 32 bits. -/
def int32 : Decoder Int32
  | _, .int i =>
    if Int32.minValue.toInt ≤ i ∧ i ≤ Int32.maxValue.toInt then .ok (Int32.ofInt i)
    else .error (.wrongValue (.integer i) .i32)
  | _, j => .error (.wrongType (.of j) .i32)

/-- A URI reference. -/
def uri : Decoder Uri
  | _, .str s =>
    match Uri.ofText s with
    | .ok u => .ok u
    | .error fault => .error (.notAUri fault)
  | _, j => .error (.wrongType (.of j) .string)

/-- A value that may be `null`. -/
def nullable (decode : Decoder α) : Decoder (Option α)
  | _, .null => .ok none
  | source, j => (decode source j).map some

/-- Decodes items one by one, up to the first that does not. -/
def items (decode : Decoder α) (source : Source) : List Json → Except DecodeError (List α)
  | [] => .ok []
  | j :: rest =>
    match decode source j with
    | .error e => .error e
    | .ok x => (items decode source rest).map (x :: ·)

/-- A list. -/
def list (decode : Decoder α) : Decoder (List α)
  | source, .arr js => items decode source js
  | _, j => .error (.wrongType (.of j) .sequence)

/-- Decodes members one by one, the key before the value. -/
def members {κ : Type} (key : String → Except DecodeError κ) (decode : Decoder α)
    (source : Source) : List (String × Json) → Except DecodeError (List (κ × α))
  | [] => .ok []
  | (k, j) :: rest =>
    match key k with
    | .error e => .error e
    | .ok k' =>
      match decode source j with
      | .error e => .error e
      | .ok x => (members key decode source rest).map ((k', x) :: ·)

/-- A map, as the list of its entries. -/
def map {κ : Type} (key : String → Except DecodeError κ) (decode : Decoder α) :
    Decoder (List (κ × α))
  | source, .obj ms => members key decode source ms
  | _, j => .error (.wrongType (.of j) .map)

/-- A key that is a URI reference. -/
def uriKey (s : String) : Except DecodeError Uri :=
  uri .inPlace (.str s)

/-- The first alternative that decodes; if none does, the name of the union is all that the error
says. -/
def firstOf (union : String) (alternatives : List (Decoder α)) : Decoder α := fun _ j =>
  match alternatives.findSome? fun decode => (decode .gathered j).toOption with
  | some x => .ok x
  | none => .error (.noVariant union)

/-- One of several names, as a string, or as the only key of an object with the value `null`. -/
def variant (names : List (String × α)) : Decoder α :=
  let named (s : String) : Except DecodeError α :=
    match names.lookup s with
    | some x => .ok x
    | none => .error (.unknownVariant s (names.map (·.1)))
  fun
  | _, .str s => named s
  | _, .obj [(s, payload)] =>
    match named s with
    | .error e => .error e
    | .ok x =>
      match payload with
      -- A plain variant carries nothing.
      | .null => .ok x
      | j => .error (.wrongType (.of j) .unit)
  | _, .obj _ => .error (.wrongValue .map .mapWithOneKey)
  | _, j => .error (.wrongType (.of j) .stringOrMap)

/-! ### What the encoders write -/

/-- The JSON of a natural number of 32 bits decodes to it. -/
theorem uint32_ofUInt32 (source : Source) (n : UInt32) : uint32 source (.ofUInt32 n) = .ok n := by
  have h : 0 ≤ (n.toNat : Int) ∧ (n.toNat : Int) < UInt32.size := by
    have hlt := n.toNat_lt_size
    omega
  rw [Json.ofUInt32, uint32, if_pos h]
  simp

/-- The JSON of an integer of 32 bits decodes to it. -/
theorem int32_ofInt32 (source : Source) (i : Int32) : int32 source (.ofInt32 i) = .ok i := by
  have h : Int32.minValue.toInt ≤ i.toInt ∧ i.toInt ≤ Int32.maxValue.toInt :=
    ⟨i.minValue_le_toInt, i.toInt_le⟩
  rw [Json.ofInt32, int32, if_pos h, Int32.ofInt_toInt]

/-- The text of a URI reference decodes to it. -/
theorem uri_text (source : Source) (u : Uri) : uri source (.str u.text) = .ok u := by
  simp [uri, Uri.ofText_text]

/-- Values that decode one by one decode as a list. -/
theorem list_ofList {toJson : α → Json} {decode : Decoder α} {source : Source} {xs : List α}
    (h : ∀ x ∈ xs, decode source (toJson x) = .ok x) :
    list decode source (.ofList toJson xs) = .ok xs := by
  induction xs with
  | nil => rfl
  | cons x xs ih =>
    have hx := h x (by simp)
    have hxs := ih fun y hy => h y (by simp [hy])
    simp only [list, Json.ofList] at hxs
    simp [list, Json.ofList, items, hx, hxs, Except.map]

end Decoder

end EditorBridge
