import EditorBridge.Decode.Fields
import Mathlib.Data.List.Forall2
import Mathlib.Data.List.Induction
import Mathlib.Data.List.Nodup

/-!
# Records that are written and read

`Decoder.Inverts decode toJson` says that a decoder reads back what an encoder writes.  For a
record it follows field by field: `Fields.Reads` says that fields read a value from all members
that agree with what is written, and has one rule for each way of making fields.

Main statements: the members of a record are those that are written (`Json.lookup_members`), and
fields that read each value from what is written for it invert the encoder (`Fields.Reads.inverts`).
-/

namespace EditorBridge

/-! ### Members of objects -/

namespace Json

theorem lookup_cons_ne {name key : String} (h : name ≠ key) (value : Json)
    (ms : List (String × Json)) : ((key, value) :: ms).lookup name = ms.lookup name := by
  rw [List.lookup_cons, beq_eq_false_iff_ne.mpr h]

theorem lookup_insertMember_self (key : String) (value : Json) (ms : List (String × Json)) :
    (insertMember key value ms).lookup key = some value := by
  induction ms with
  | nil => exact List.lookup_cons_self
  | cons m ms ih =>
    rw [insertMember]
    split_ifs with hlt heq
    · exact List.lookup_cons_self
    · exact List.lookup_cons_self
    · rw [lookup_cons_ne heq, ih]

theorem lookup_insertMember_of_ne {name key : String} (h : name ≠ key) (value : Json)
    (ms : List (String × Json)) : (insertMember key value ms).lookup name = ms.lookup name := by
  induction ms with
  | nil => exact lookup_cons_ne h value []
  | cons m ms ih =>
    rw [insertMember]
    split_ifs with hlt heq
    · exact lookup_cons_ne h value _
    · rw [lookup_cons_ne h, lookup_cons_ne (heq ▸ h)]
    · rw [List.lookup_cons, List.lookup_cons, ih]

/-- The members of the record of these fields. -/
def members (fields : List (String × Option Json)) : List (String × Json) :=
  sortMembers (fields.filterMap fun field => field.2.map (field.1, ·))

theorem members_append_singleton (fields : List (String × Option Json)) (name : String)
    (value : Option Json) :
    members (fields ++ [(name, value)]) =
      value.elim (members fields) fun j => insertMember name j (members fields) := by
  rw [members, List.filterMap_append, sortMembers, List.foldl_append]
  cases value <;> rfl

/-- A record has no member for a name that is not among its fields. -/
theorem lookup_members_of_notMem {fields : List (String × Option Json)} {name : String}
    (h : name ∉ fields.map Prod.fst) : (members fields).lookup name = none := by
  induction fields using List.reverseRecOn with
  | nil => rfl
  | append_singleton fields field ih =>
    obtain ⟨key, value⟩ := field
    simp only [List.map_append, List.mem_append, not_or, List.map_cons, List.map_nil,
      List.mem_singleton] at h
    rw [members_append_singleton]
    cases value with
    | none => exact ih h.1
    | some j => exact (lookup_insertMember_of_ne h.2 j _).trans (ih h.1)

/-- A record has for each of its fields the member that is written for it. -/
theorem lookup_members {fields : List (String × Option Json)}
    (hnames : (fields.map Prod.fst).Nodup) {name : String} {value : Option Json}
    (hmem : (name, value) ∈ fields) : (members fields).lookup name = value := by
  induction fields using List.reverseRecOn with
  | nil => cases hmem
  | append_singleton fields field ih =>
    obtain ⟨key, value'⟩ := field
    rw [List.map_append, List.nodup_append] at hnames
    obtain ⟨hnodup, -, hfresh⟩ := hnames
    rw [members_append_singleton]
    rcases List.mem_append.mp hmem with hbefore | hlast
    · -- The last field has another name, and changes nothing for this one.
      have hne : name ≠ key := hfresh name (List.mem_map_of_mem hbefore) key List.mem_cons_self
      cases value' with
      | none => exact ih hnodup hbefore
      | some j => exact (lookup_insertMember_of_ne hne j _).trans (ih hnodup hbefore)
    · obtain ⟨rfl, rfl⟩ := Prod.mk.inj (List.mem_singleton.mp hlast)
      cases value with
      | none =>
        refine lookup_members_of_notMem fun hbefore => ?_
        exact hfresh name hbefore name List.mem_cons_self rfl
      | some j => exact lookup_insertMember_self name j _

/-- The value of a field of a record is what is written for it. -/
theorem get?_record {fields : List (String × Option Json)}
    (hnames : (fields.map Prod.fst).Nodup) {name : String} {value : Option Json}
    (hmem : (name, value) ∈ fields) : (record fields).get? name = value :=
  lookup_members hnames hmem

theorem get?_record_of_notMem {fields : List (String × Option Json)} {name : String}
    (h : name ∉ fields.map Prod.fst) : (record fields).get? name = none :=
  lookup_members_of_notMem h

end Json

/-! ### Decoders of what is written -/

theorem exists_of_map_ok {ε α β : Type} {f : α → β} {result : Except ε α} {y : β}
    (h : result.map f = .ok y) : ∃ x, result = .ok x ∧ f x = y := by
  cases result with
  | error e => cases h
  | ok x => exact ⟨x, rfl, Except.ok.inj h⟩

/-- The decoder reads back what the encoder writes, which is never `null`. -/
structure Decoder.Inverts {α : Type} (decode : Decoder α) (toJson : α → Json) : Prop where
  decode_toJson (source : Source) (x : α) : decode source (toJson x) = .ok x
  toJson_ne_null (x : α) : toJson x ≠ .null

namespace Decoder

variable {α : Type} {decode : Decoder α} {toJson : α → Json}

theorem inverts_string : Inverts string .str where
  decode_toJson _ _ := rfl
  toJson_ne_null _ := Json.noConfusion

theorem inverts_bool : Inverts bool .bool where
  decode_toJson _ _ := rfl
  toJson_ne_null _ := Json.noConfusion

theorem inverts_uint32 : Inverts uint32 .ofUInt32 where
  decode_toJson := uint32_ofUInt32
  toJson_ne_null _ := Json.noConfusion

theorem inverts_int32 : Inverts int32 .ofInt32 where
  decode_toJson := int32_ofInt32
  toJson_ne_null _ := Json.noConfusion

theorem inverts_uri : Inverts uri fun u => .str u.text where
  decode_toJson := uri_text
  toJson_ne_null _ := Json.noConfusion

theorem Inverts.list (h : decode.Inverts toJson) : Inverts (list decode) (.ofList toJson) where
  decode_toJson source _ := list_ofList fun x _ => h.decode_toJson source x
  toJson_ne_null _ := Json.noConfusion

theorem inverts_values : Inverts (.list .any) .arr where
  decode_toJson source js := by
    have hread : list any source (.ofList id js) = .ok js := list_ofList fun _ _ => rfl
    rwa [Json.ofList, List.map_id] at hread
  toJson_ne_null _ := Json.noConfusion

/-- Entries whose keys read back from their texts are read back from the object of them. -/
theorem Inverts.map {κ : Type} {key : String → Except DecodeError κ} {text : κ → String}
    (h : decode.Inverts toJson) (hkey : ∀ k, key (text k) = .ok k) :
    Inverts (map key decode) fun entries => .obj (entries.map fun e => (text e.1, toJson e.2)) where
  decode_toJson source entries := by
    rw [Decoder.map]
    induction entries with
    | nil => rfl
    | cons e entries ih =>
      obtain ⟨k, x⟩ := e
      rw [List.map_cons, members]
      simp only [hkey, h.decode_toJson, ih, Except.map]
  toJson_ne_null _ := Json.noConfusion

theorem nullable_of_ne_null {j : Json} (h : j ≠ .null) (source : Source) :
    nullable decode source j = (decode source j).map some := by
  cases j with
  | null => exact absurd rfl h
  | _ => rfl

theorem Inverts.nullable (h : decode.Inverts toJson) (source : Source) (x : α) :
    nullable decode source (toJson x) = .ok (some x) := by
  rw [nullable_of_ne_null (h.toJson_ne_null x), h.decode_toJson]
  rfl

/-- What may be `null` is read back also where none is written as `null`. -/
theorem Inverts.nullable_getD (h : decode.Inverts toJson) (source : Source) (x : Option α) :
    Decoder.nullable decode source ((x.map toJson).getD .null) = .ok x := by
  cases x with
  | none => rfl
  | some x => exact h.nullable source x

/-! ### Values that were read -/

theorem string_ok {source : Source} {j : Json} {s : String} (h : string source j = .ok s) :
    j = .str s := by
  cases j with
  | str => cases h; rfl
  | _ => cases h

theorem list_ok {source : Source} {j : Json} {xs : List α} (h : list decode source j = .ok xs) :
    ∃ js, j = .arr js ∧ items decode source js = .ok xs := by
  cases j with
  | arr js => exact ⟨js, rfl, h⟩
  | _ => cases h

/-- The items of a list are read one by one. -/
theorem items_ok_iff {source : Source} {js : List Json} {xs : List α} :
    items decode source js = .ok xs ↔ js.Forall₂ (fun j x => decode source j = .ok x) xs := by
  induction js generalizing xs with
  | nil => simp [items, eq_comm]
  | cons j js ih =>
    rw [items, List.forall₂_cons_left_iff]
    cases hj : decode source j with
    | error e => simp
    | ok x =>
      cases hjs : items decode source js with
      | error e => simp [← ih, hjs, Except.map]
      | ok ys => simp [← ih, hjs, Except.map, eq_comm]

/-! ### Alternatives -/

/-- An alternative that decodes is taken if it is the first. -/
theorem firstOf_cons_ok {union : String} {rest : List (Decoder α)} {j : Json} {x : α}
    (h : decode .gathered j = .ok x) (source : Source) :
    firstOf union (decode :: rest) source j = .ok x := by
  simp [firstOf, h, Except.toOption]

/-- An alternative that does not decode makes room for the next. -/
theorem firstOf_cons_error {union : String} {rest : List (Decoder α)} {j : Json} {e : DecodeError}
    (h : decode .gathered j = .error e) (source : Source) :
    firstOf union (decode :: rest) source j = firstOf union rest source j := by
  simp [firstOf, h, Except.toOption]

/-- What an alternative that comes first reads is what is read; otherwise the others read it. -/
theorem firstOf_cons_eq_ok {union : String} {rest : List (Decoder α)} {source : Source} {j : Json}
    {x : α} (h : firstOf union (decode :: rest) source j = .ok x) :
    decode .gathered j = .ok x ∨
      (∃ e, decode .gathered j = .error e) ∧ firstOf union rest source j = .ok x := by
  cases hj : decode .gathered j with
  | ok y => exact .inl ((firstOf_cons_ok hj source).symm.trans h)
  | error e => exact .inr ⟨⟨e, rfl⟩, (firstOf_cons_error hj source).symm.trans h⟩

end Decoder

/-! ### Fields that were read -/

namespace Fields

variable {α β : Type} {source : Source} {ms : List (String × Json)} {name : String}

theorem fromMembers_field {decode : Decoder α} {absent short : Option α} {j : Json}
    (h : ms.lookup name = some j) :
    (field name decode absent short).fromMembers source ms = decode source j := by
  simp only [field, h]

/-- A record that was read is made of its parts that were read. -/
theorem fromMembers_seq_ok {f : Fields (α → β)} {fields : Fields α} {y : β}
    (h : (f <*> fields).fromMembers source ms = .ok y) :
    ∃ g x, f.fromMembers source ms = .ok g ∧ fields.fromMembers source ms = .ok x ∧ g x = y := by
  change (Fields.seq f fields).fromMembers source ms = .ok y at h
  rw [Fields.seq] at h
  cases hf : f.fromMembers source ms with
  | error e => simp [hf] at h
  | ok g =>
    cases hx : fields.fromMembers source ms with
    | error e => simp [hf, hx, Except.map] at h
    | ok x => exact ⟨g, x, rfl, rfl, by simpa [hf, hx, Except.map] using h⟩

theorem fromMembers_map_ok {f : α → β} {fields : Fields α} {y : β}
    (h : (f <$> fields).fromMembers source ms = .ok y) :
    ∃ x, fields.fromMembers source ms = .ok x ∧ f x = y := by
  obtain ⟨g, x, ⟨⟩, hx, hy⟩ := fromMembers_seq_ok (f := Fields.pure f) h
  exact ⟨x, hx, hy⟩

theorem fromMembers_required_ok {decode : Decoder α} {x : α}
    (h : (required name decode).fromMembers source ms = .ok x) :
    ∃ j, ms.lookup name = some j ∧ decode source j = .ok x := by
  cases hj : ms.lookup name with
  | none => simp [required, field, hj] at h
  | some j => exact ⟨j, rfl, by simpa [required, field, hj] using h⟩

/-- A value is read from the JSON value that stands for it, and is `value` where none does. -/
def Fills (decode : Decoder α) (source : Source) (value : α) (j : Option Json) (x : α) : Prop :=
  j.elim (x = value) fun j => decode source j = .ok x

theorem fromMembers_withDefault_ok {decode : Decoder α} {value x : α}
    (h : (withDefault name decode value).fromMembers source ms = .ok x) :
    Fills decode source value (ms.lookup name) x := by
  cases hj : ms.lookup name with
  | none =>
    have hx : value = x := by simpa [withDefault, field, hj] using h
    exact hx.symm
  | some j =>
    rw [withDefault, fromMembers_field hj] at h
    exact h

/-- The items of a record that was read from an array are those of its parts, in their order. -/
theorem fromItems_seq_ok {f : Fields (α → β)} {fields : Fields α} {short : Nat → DecodeError}
    {i : Nat} {items rest : List Json} {y : β}
    (h : (f <*> fields).fromItems source short i items = .ok (y, rest)) :
    ∃ g x more, f.fromItems source short i items = .ok (g, more) ∧
      fields.fromItems source short (i + f.arity) more = .ok (x, rest) ∧ g x = y := by
  change (Fields.seq f fields).fromItems source short i items = .ok (y, rest) at h
  rw [Fields.seq] at h
  cases hf : f.fromItems source short i items with
  | error e => simp [hf] at h
  | ok p =>
    obtain ⟨g, more⟩ := p
    cases hx : fields.fromItems source short (i + f.arity) more with
    | error e => simp [hf, hx] at h
    | ok q =>
      obtain ⟨x, rest'⟩ := q
      simp only [hf, hx, Except.ok.injEq, Prod.mk.injEq] at h
      obtain ⟨hy, rfl⟩ := h
      exact ⟨g, x, more, rfl, hx, hy⟩

theorem fromItems_map_ok {f : α → β} {fields : Fields α} {short : Nat → DecodeError} {i : Nat}
    {items rest : List Json} {y : β}
    (h : (f <$> fields).fromItems source short i items = .ok (y, rest)) :
    ∃ x, fields.fromItems source short i items = .ok (x, rest) ∧ f x = y := by
  obtain ⟨g, x, more, ⟨⟩, hx, hy⟩ := fromItems_seq_ok (f := Fields.pure f) h
  exact ⟨x, hx, hy⟩

/-- A field takes one item of an array. -/
theorem fromItems_field_ok {decode : Decoder α} {absent short : Option α} {few : Nat → DecodeError}
    {i : Nat} {items rest : List Json} {x : α}
    (h : (field name decode absent short).fromItems source few i items = .ok (x, rest)) :
    rest = items.tail := by
  cases items with
  | nil =>
    cases short with
    | none => cases h
    | some y => exact (congrArg Prod.snd (Except.ok.inj h)).symm
  | cons j more =>
    obtain ⟨y, -, hy⟩ := exists_of_map_ok h
    exact (congrArg Prod.snd hy).symm

theorem fromItems_required_ok {decode : Decoder α} {short : Nat → DecodeError} {i : Nat}
    {items rest : List Json} {x : α}
    (h : (required name decode).fromItems source short i items = .ok (x, rest)) :
    ∃ j, items = j :: rest ∧ decode source j = .ok x := by
  cases items with
  | nil => cases h
  | cons j more =>
    obtain rfl := fromItems_field_ok h
    obtain ⟨y, hy, heq⟩ := exists_of_map_ok h
    obtain rfl : y = x := congrArg Prod.fst heq
    exact ⟨j, rfl, hy⟩

theorem fromItems_withDefault_ok {decode : Decoder α} {value x : α} {short : Nat → DecodeError}
    {i : Nat} {items rest : List Json}
    (h : (withDefault name decode value).fromItems source short i items = .ok (x, rest)) :
    Fills decode source value items.head? x ∧ rest = items.tail := by
  refine ⟨?_, fromItems_field_ok h⟩
  cases items with
  | nil => exact (congrArg Prod.fst (Except.ok.inj h)).symm
  | cons j more =>
    obtain ⟨y, hy, heq⟩ := exists_of_map_ok h
    obtain rfl : y = x := congrArg Prod.fst heq
    exact hy

theorem fromMembers_omissibleValue :
    (omissibleValue name).fromMembers source ms = .ok ((ms.lookup name).getD .null) := by
  cases hj : ms.lookup name <;> simp [omissibleValue, field, hj, Decoder.any]

theorem fromMembers_of_ofMembers {fields : Fields α} {x : α}
    (h : fields.ofMembers source ms = .ok x) : fields.fromMembers source ms = .ok x := by
  cases hx : fields.fromMembers source ms with
  | error e => simp [ofMembers, hx] at h
  | ok y => simpa [ofMembers, hx] using h

/-- No item of an array is left over. -/
theorem fromItems_of_ofItems {fields : Fields α} {items : List Json} {x : α}
    (h : fields.ofItems name source items = .ok x) :
    ∃ short, fields.fromItems source short 0 items = .ok (x, []) := by
  unfold ofItems at h
  split at h
  · cases h
  · next y hy => cases h; exact ⟨_, hy⟩
  · cases h

/-- A record of two parts was made of values of them, from an object as from an array. -/
theorem record_seq_ok {γ : Type} {f : α → β → γ} {first : Fields α} {second : Fields β} {j : Json}
    {y : γ} (h : (f <$> first <*> second).record name source j = .ok y) : ∃ x z, f x z = y := by
  cases j with
  | obj ms =>
    obtain ⟨g, z, hfirst, -, rfl⟩ := fromMembers_seq_ok (fromMembers_of_ofMembers h)
    obtain ⟨x, -, rfl⟩ := fromMembers_map_ok hfirst
    exact ⟨x, z, rfl⟩
  | arr items =>
    obtain ⟨short, hitems⟩ := fromItems_of_ofItems h
    obtain ⟨g, z, more, hfirst, -, rfl⟩ := fromItems_seq_ok hitems
    obtain ⟨x, -, rfl⟩ := fromItems_map_ok hfirst
    exact ⟨x, z, rfl⟩
  | _ => cases h

end Fields

/-! ### Fields of what is written -/

/-- The fields read the value from all members that agree with what is written. -/
def Fields.Reads {α : Type} (fields : Fields α) (written : List (String × Option Json)) (x : α) :
    Prop :=
  ∀ source ms, (∀ name value, (name, value) ∈ written → ms.lookup name = value) →
    fields.fromMembers source ms = .ok x

namespace Fields.Reads

variable {α β : Type} {written : List (String × Option Json)} {name : String}
  {decode : Decoder α} {toJson : α → Json}

theorem map {fields : Fields α} {x : α} {f : α → β} (h : fields.Reads written x) :
    (f <$> fields).Reads written (f x) := by
  intro source ms hms
  have hx := h source ms hms
  change (fields.fromMembers source ms).map f = _
  rw [hx]
  rfl

theorem seq {f : Fields (α → β)} {fields : Fields α} {g : α → β} {x : α}
    (hf : f.Reads written g) (h : fields.Reads written x) :
    (f <*> fields).Reads written (g x) := by
  intro source ms hms
  have hg := hf source ms hms
  have hx := h source ms hms
  change (Fields.seq f fields).fromMembers source ms = _
  rw [Fields.seq]
  simp only [hg, hx]
  rfl

/-- A field is read from the value that is written for it. -/
theorem field_of_decode {absent short : Option α} {j : Json} {x : α}
    (h : ∀ source, decode source j = .ok x) (hmem : (name, some j) ∈ written) :
    (Fields.field name decode absent short).Reads written x := by
  intro source ms hms
  rw [fromMembers_field (hms name _ hmem), h]

theorem field {absent short : Option α} (h : decode.Inverts toJson) {x : α}
    (hmem : (name, some (toJson x)) ∈ written) :
    (Fields.field name decode absent short).Reads written x :=
  field_of_decode (fun source => h.decode_toJson source x) hmem

theorem required (h : decode.Inverts toJson) {x : α} (hmem : (name, some (toJson x)) ∈ written) :
    (required name decode).Reads written x :=
  field h hmem

theorem withDefault (h : decode.Inverts toJson) {x value : α}
    (hmem : (name, some (toJson x)) ∈ written) : (withDefault name decode value).Reads written x :=
  field h hmem

/-- A field that may be `null` and is left out for none. -/
theorem nullable {short : Option (Option α)} (h : decode.Inverts toJson) {x : Option α}
    (hmem : (name, x.map toJson) ∈ written) :
    (Fields.field name (Decoder.nullable decode) (some none) short).Reads written x := by
  intro source ms hms
  rw [Fields.field]
  cases x with
  | none => simp only [hms name _ hmem, Option.map_none]
  | some x => simp only [hms name _ hmem, Option.map_some, h.nullable]

theorem optional (h : decode.Inverts toJson) {x : Option α}
    (hmem : (name, x.map toJson) ∈ written) : (optional name decode).Reads written x :=
  nullable h hmem

theorem omissible (h : decode.Inverts toJson) {x : Option α}
    (hmem : (name, x.map toJson) ∈ written) : (omissible name decode).Reads written x :=
  nullable h hmem

/-- A field that may be `null` and is written as `null` for none. -/
theorem optional_getD (h : decode.Inverts toJson) {x : Option α}
    (hmem : (name, some ((x.map toJson).getD .null)) ∈ written) :
    (Fields.optional name decode).Reads written x :=
  field_of_decode (fun source => h.nullable_getD source x) hmem

/-- A field of any value, `null` when it is left out. -/
theorem unlessNull {j : Json} {short : Option Json} (hmem : (name, j.unlessNull) ∈ written) :
    (Fields.field name .any (some .null) short).Reads written j := by
  intro source ms hms
  rw [Fields.field]
  cases j with
  | null => simp only [hms name _ hmem, Json.unlessNull]
  | _ => simp only [hms name _ hmem, Json.unlessNull, Decoder.any]

theorem value {j : Json} (hmem : (name, j.unlessNull) ∈ written) :
    (value name).Reads written j :=
  unlessNull hmem

theorem omissibleValue {j : Json} (hmem : (name, j.unlessNull) ∈ written) :
    (omissibleValue name).Reads written j :=
  unlessNull hmem

/-- A field of any value is read as it is, also where it is written as `null`. -/
theorem any {j : Json} {absent short : Option Json} (hmem : (name, some j) ∈ written) :
    (Fields.field name .any absent short).Reads written j :=
  field_of_decode (fun _ => rfl) hmem

/-- Fields that read from what is written read from the object of the record. -/
theorem ofMembers {fields : Fields α} {x : α} (h : fields.Reads written x)
    (hnames : (written.map Prod.fst).Nodup) (source : Source) :
    fields.ofMembers source (Json.members written) = .ok x := by
  rw [Fields.ofMembers, h source _ fun _ _ => Json.lookup_members hnames]

/-- Fields that read each value from what is written for it invert the encoder. -/
theorem inverts {fields : Fields α} {written : α → List (String × Option Json)}
    (h : ∀ x, fields.Reads (written x) x) (hnames : ∀ x, ((written x).map Prod.fst).Nodup) :
    (fields.record name).Inverts fun x => .record (written x) where
  decode_toJson source x := (h x).ofMembers (hnames x) source
  toJson_ne_null _ := Json.noConfusion

end Fields.Reads

end EditorBridge
