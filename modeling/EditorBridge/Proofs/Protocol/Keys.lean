import EditorBridge.Proofs.Json.Places
import EditorBridge.Proofs.Protocol.Members

/-!
# Records that are read by key

Some records have a default for each of their fields.  Such a record is described by the keys that
it is read by (`Fields.Key`): each is read on its own from the member with its name, and stands for
one field of the record (`Fields.ReadByKey`).

Main statement: what it takes to be read in this way (`Fields.ReadByKey.of_keyed`).  That an object
is refused for its first member that does not decode rests on there being such a member whenever the
record is not read (`Fields.Keyed.findSome?_of_error`).
-/

namespace EditorBridge

/-! ### Searching members -/

theorem findSome?_filter_of_eq_none {α β : Type} {f : α → Option β} {p : α → Bool} {xs : List α}
    (h : ∀ x, p x = false → f x = none) : (xs.filter p).findSome? f = xs.findSome? f := by
  induction xs with
  | nil => rfl
  | cons x xs ih =>
    cases hp : p x with
    | true => rw [List.filter_cons_of_pos hp, List.findSome?_cons, List.findSome?_cons, ih]
    | false =>
      rw [List.filter_cons_of_neg (by simp [hp]), List.findSome?_cons, h x hp, ih]

namespace Json

variable {ms : List (String × Json)} {name : String}

/-- The members with one of these names are all that is looked at for such a name. -/
theorem lookup_filter_of_mem {names : List String} (h : name ∈ names) :
    (ms.filter fun m => m.1 ∈ names).lookup name = ms.lookup name := by
  rw [List.lookup_eq_findSome?, List.lookup_eq_findSome?]
  refine findSome?_filter_of_eq_none fun m hm => ?_
  have hne : ¬ name = m.1 := by
    rintro rfl
    simp [h] at hm
  simp [hne]

theorem lookup_map_value (f : String → Json → Json) :
    (ms.map fun m => (m.1, f m.1 m.2)).lookup name = (ms.lookup name).map (f name) := by
  induction ms with
  | nil => rfl
  | cons m ms ih =>
    rw [List.map_cons, List.lookup_cons, List.lookup_cons, ih]
    by_cases h : name = m.1
    · rw [h, beq_self_eq_true]
      rfl
    · rw [beq_eq_false_iff_ne.mpr h]

/-- Where the keys increase, a member is the one that is found under its key. -/
theorem lookup_of_mem (h : KeysIncrease (.obj ms)) {j : Json} (hmem : (name, j) ∈ ms) :
    ms.lookup name = some j := by
  obtain ⟨before, after, rfl⟩ := List.append_of_mem hmem
  refine List.lookup_eq_some_iff.mpr ⟨before, after, rfl, fun m hm => ?_⟩
  rw [KeysIncrease, List.map_append, List.pairwise_append] at h
  have hlt : m.1 < name := h.2.2 m.1 (List.mem_map_of_mem hm) name (by simp)
  refine bne_iff_ne.mpr ?_
  rintro rfl
  exact String.lt_irrefl _ hlt

theorem mem_of_lookup {j : Json} (h : ms.lookup name = some j) : (name, j) ∈ ms := by
  obtain ⟨before, after, rfl, -⟩ := List.lookup_eq_some_iff.mp h
  simp

end Json

namespace Fields

/-! ### Fields with defaults -/

section Defaults

variable {α β : Type} {source : Source} {ms : List (String × Json)} {name : String}
  {j : Option Json} {decode : Decoder α} {value : α}

/-- What stands for a value tells it. -/
theorem Fills.unique {x y : α} (hx : Fills decode source value j x)
    (hy : Fills decode source value j y) : x = y := by
  cases j with
  | none => exact Eq.trans hx (Eq.symm hy)
  | some j => exact Except.ok.inj (Eq.trans (Eq.symm hx) hy)

/-- There is a value unless something stands for it that does not decode. -/
theorem exists_fills_iff :
    (∃ x, Fills decode source value j x) ↔ ∀ v, j = some v → ∃ x, decode source v = .ok x := by
  cases j <;> simp [Fills]

theorem fromMembers_withDefault_eq_ok_iff {x : α} :
    (withDefault name decode value).fromMembers source ms = .ok x ↔
      Fills decode source value (ms.lookup name) x := by
  refine ⟨fromMembers_withDefault_ok, fun h => ?_⟩
  cases hj : ms.lookup name with
  | none =>
    rw [hj] at h
    simp [withDefault, field, hj, show x = value from h]
  | some j =>
    rw [hj] at h
    exact (fromMembers_field hj).trans h

theorem exists_fromMembers_seq_iff {f : Fields (α → β)} {fields : Fields α} :
    (∃ y, (f <*> fields).fromMembers source ms = .ok y) ↔
      (∃ g, f.fromMembers source ms = .ok g) ∧ ∃ x, fields.fromMembers source ms = .ok x := by
  simp only [fromMembers_seq_eq_ok_iff]
  constructor
  · rintro ⟨_, g, x, hg, hx, -⟩
    exact ⟨⟨g, hg⟩, x, hx⟩
  · rintro ⟨⟨g, hg⟩, x, hx⟩
    exact ⟨g x, g, x, hg, hx, rfl⟩

theorem exists_fromMembers_map_iff {f : α → β} {fields : Fields α} :
    (∃ y, (f <$> fields).fromMembers source ms = .ok y) ↔
      ∃ x, fields.fromMembers source ms = .ok x := by
  simp only [fromMembers_map_eq_ok_iff]
  exact ⟨fun ⟨_, x, hx, _⟩ => ⟨x, hx⟩, fun ⟨x, hx⟩ => ⟨f x, x, hx, rfl⟩⟩

/-- A member is a fault of fields if it is one of either part. -/
theorem fault?_seq {f : Fields (α → β)} {fields : Fields α} {v : Json} :
    (f <*> fields).fault? source name v =
      (f.fault? source name v).or (fields.fault? source name v) :=
  rfl

theorem fault?_withDefault_of_ne {key : String} (h : key ≠ name) {v : Json} :
    (withDefault name decode value).fault? source key v = none :=
  if_neg h

theorem fault?_withDefault_self {v : Json} {e : DecodeError} :
    (withDefault name decode value).fault? source name v = some e ↔ decode source v = .error e := by
  cases hv : decode source v <;> simp [withDefault, field, hv]

end Defaults

/-! ### Keys -/

/-- A key that a record is read by. -/
structure Key (α : Type) where
  name : String
  Value : Type
  decode : Decoder Value
  /-- The value where there is no member with the name. -/
  default : Value
  /-- The field of a record that the key stands for. -/
  field : α → Value

section Keys

variable {α : Type}

/-- The names of keys. -/
def names (keys : List (Key α)) : List String :=
  keys.map Key.name

/-- A record has for each key what the member with its name decodes to, and the default of the key
if there is none. -/
def Holds (keys : List (Key α)) (ms : List (String × Json)) (x : α) : Prop :=
  ∀ k ∈ keys, Fills k.decode .inPlace k.default (ms.lookup k.name) (k.field x)

/-- With another value for one key, a record has that value for the key and holds the rest as
before. -/
theorem Holds.insertMember {keys : List (Key α)} (hnames : (names keys).Nodup)
    {ms : List (String × Json)} {x y : α} (hx : Holds keys ms x) {k : Key α} (hk : k ∈ keys)
    {j : Json} (hself : k.decode .inPlace j = .ok (k.field y))
    (hothers : ∀ other ∈ keys, other.name ≠ k.name → other.field y = other.field x) :
    Holds keys (Json.insertMember k.name j ms) y := by
  intro other hother
  by_cases hname : other.name = k.name
  · obtain rfl := List.inj_on_of_nodup_map hnames hother hk hname
    rw [Json.lookup_insertMember_self]
    exact hself
  · rw [Json.lookup_insertMember_of_ne hname, hothers other hother hname]
    exact hx other hother

/-- A member has the name of a key and does not decode to its type. -/
def Offends (keys : List (Key α)) (m : String × Json) (e : DecodeError) : Prop :=
  ∃ k ∈ keys, k.name = m.1 ∧ k.decode .inPlace m.2 = .error e

/-- How a record is read by key from the members of an object.  The error of a member becomes that
of the object by `wrap`. -/
structure ReadByKey {ε : Type} (read : List (String × Json) → Except ε α) (wrap : DecodeError → ε)
    (keys : List (Key α)) : Prop where
  /-- A record is read exactly if each member that is there for a key decodes on its own. -/
  exists_ok_iff {ms : List (String × Json)} :
    (∃ x, read ms = .ok x) ↔
      ∀ k ∈ keys, ∀ j, ms.lookup k.name = some j → ∃ v, k.decode .inPlace j = .ok v
  /-- Each field is what its member decodes to, or the default of its key. -/
  ok_iff {ms : List (String × Json)} {x : α} : read ms = .ok x ↔ Holds keys ms x
  /-- Otherwise the error is that of the first member, in the order of the keys, that does not
  decode. -/
  error_iff {ms : List (String × Json)} {e : ε} (h : Json.KeysIncrease (.obj ms)) :
    read ms = .error e ↔
      ∃ before m after fault, ms = before ++ m :: after ∧ (∀ m ∈ before, ∀ f, ¬ Offends keys m f) ∧
        Offends keys m fault ∧ e = wrap fault
  /-- No key takes `null`. -/
  null_refused (k : Key α) (hk : k ∈ keys) : ∃ e, k.decode .inPlace .null = .error e
  /-- Members that no key names change nothing. -/
  only_named {ms ms' : List (String × Json)}
    (h : (ms.filter fun m => m.1 ∈ names keys) = ms'.filter fun m => m.1 ∈ names keys) :
    read ms = read ms'
  /-- A member with another value that decodes changes its own field only. -/
  change {ms : List (String × Json)} {x : α} (hx : read ms = .ok x) (k : Key α) (hk : k ∈ keys)
    {j : Json} {v : k.Value} (hv : k.decode .inPlace j = .ok v) :
    ∃ y, read (Json.insertMember k.name j ms) = .ok y ∧ k.field y = v ∧
      ∀ other ∈ keys, other.name ≠ k.name → other.field y = other.field x

/-- Fields take what these keys take: there is a value exactly if there is one for each key, and a
member is a fault exactly if it is one of its key. -/
structure TakesKeys {β : Type} (fields : Fields β) (keys : List (Key α)) : Prop where
  exists_ok_iff {ms : List (String × Json)} :
    (∃ x, fields.fromMembers .inPlace ms = .ok x) ↔
      ∀ k ∈ keys, ∃ v, Fills k.decode .inPlace k.default (ms.lookup k.name) v
  fault_named {k : Key α} (hk : k ∈ keys) {j : Json} {e : DecodeError} :
    fields.fault? .inPlace k.name j = some e ↔ k.decode .inPlace j = .error e
  fault_unnamed {name : String} (h : name ∉ names keys) (j : Json) :
    fields.fault? .inPlace name j = none

namespace TakesKeys

variable {β γ : Type} {keys keys' : List (Key α)}

theorem withDefault (k : Key α) : TakesKeys (withDefault k.name k.decode k.default) [k] where
  exists_ok_iff {ms} := by
    simp only [fromMembers_withDefault_eq_ok_iff, List.forall_mem_singleton]
  fault_named {k'} hk j e := by
    obtain rfl := List.mem_singleton.mp hk
    exact fault?_withDefault_self
  fault_unnamed {name} h j := fault?_withDefault_of_ne (by simpa [names] using h)

theorem map {fields : Fields β} (h : fields.TakesKeys keys) (f : β → γ) :
    (f <$> fields).TakesKeys keys where
  exists_ok_iff := exists_fromMembers_map_iff.trans h.exists_ok_iff
  fault_named := h.fault_named
  fault_unnamed := h.fault_unnamed

theorem seq {f : Fields (β → γ)} {fields : Fields β} (hf : f.TakesKeys keys)
    (h : fields.TakesKeys keys') (hnames : (names (keys ++ keys')).Nodup) :
    (f <*> fields).TakesKeys (keys ++ keys') := by
  rw [names, List.map_append, List.nodup_append] at hnames
  obtain ⟨-, -, hapart⟩ := hnames
  constructor
  case exists_ok_iff =>
    intro ms
    rw [exists_fromMembers_seq_iff, hf.exists_ok_iff, h.exists_ok_iff, List.forall_mem_append]
  case fault_named =>
    intro k hk j e
    rw [fault?_seq]
    rcases List.mem_append.mp hk with hk | hk
    · have hother : k.name ∉ names keys' := fun hmem =>
        hapart k.name (List.mem_map_of_mem hk) k.name hmem rfl
      rw [h.fault_unnamed hother, Option.or_none, hf.fault_named hk]
    · have hother : k.name ∉ names keys := fun hmem =>
        hapart k.name hmem k.name (List.mem_map_of_mem hk) rfl
      rw [hf.fault_unnamed hother, Option.none_or, h.fault_named hk]
  case fault_unnamed =>
    intro name hname j
    rw [names, List.map_append, List.mem_append, not_or] at hname
    rw [fault?_seq, hf.fault_unnamed hname.1, h.fault_unnamed hname.2, Option.none_or]

end TakesKeys

/-- The fields of a record are those of these keys. -/
structure Keyed (fields : Fields α) (keys : List (Key α)) : Prop extends
    fields.TakesKeys keys where
  nodup : (names keys).Nodup
  ok_iff {ms : List (String × Json)} {x : α} :
    fields.fromMembers .inPlace ms = .ok x ↔ Holds keys ms x

namespace Keyed

variable {fields : Fields α} {keys : List (Key α)} {ms ms' : List (String × Json)} {e : DecodeError}

theorem fault_iff (h : fields.Keyed keys) {m : String × Json} :
    fields.fault? .inPlace m.1 m.2 = some e ↔ Offends keys m e := by
  constructor
  · intro he
    by_cases hname : m.1 ∈ names keys
    · obtain ⟨k, hk, hkey⟩ := List.mem_map.mp hname
      rw [← hkey] at he
      exact ⟨k, hk, hkey, (h.fault_named hk).mp he⟩
    · rw [h.fault_unnamed hname] at he
      cases he
  · rintro ⟨k, hk, hname, he⟩
    rw [← hname]
    exact (h.fault_named hk).mpr he

theorem fault_eq_none_iff (h : fields.Keyed keys) {m : String × Json} :
    fields.fault? .inPlace m.1 m.2 = none ↔ ∀ fault, ¬ Offends keys m fault := by
  simp only [Option.eq_none_iff_forall_ne_some, ne_eq, h.fault_iff]

/-- A record that is not read has a member that does not decode. -/
theorem findSome?_of_error (h : fields.Keyed keys)
    (he : fields.ofMembers .inPlace ms = .error e) :
    ms.findSome? (fun m => fields.fault? .inPlace m.1 m.2) = some e := by
  have hnone : ¬ ∃ x, fields.fromMembers .inPlace ms = .ok x := by
    rintro ⟨x, hx⟩
    rw [ofMembers, hx] at he
    cases he
  -- The fields fail in the order of their declaration, which may not be that of the members; but one
  -- of the members is at fault, and then the first of them is what is reported.
  obtain ⟨k, hk, hfills⟩ : ∃ k ∈ keys,
      ¬ ∃ v, Fills k.decode .inPlace k.default (ms.lookup k.name) v := by
    simpa [h.exists_ok_iff] using hnone
  obtain ⟨j, hj, hdecode⟩ : ∃ j, ms.lookup k.name = some j ∧
      ¬ ∃ v, k.decode .inPlace j = .ok v := by
    simpa [exists_fills_iff] using hfills
  have hfault : (ms.findSome? fun m => fields.fault? .inPlace m.1 m.2).isSome := by
    refine List.findSome?_isSome_iff.mpr ⟨(k.name, j), Json.mem_of_lookup hj, ?_⟩
    cases hv : k.decode .inPlace j with
    | ok v => exact absurd ⟨v, hv⟩ hdecode
    | error fault => exact Option.isSome_of_eq_some ((h.fault_named hk).mpr hv)
  obtain ⟨fault, hsome⟩ := Option.isSome_iff_exists.mp hfault
  rw [ofMembers] at he
  cases hx : fields.fromMembers .inPlace ms with
  | ok x => exact absurd ⟨x, hx⟩ hnone
  | error missing =>
    rw [hx] at he
    simp only [hsome, Option.getD_some, Except.error.injEq] at he
    exact he ▸ hsome

/-- An object is refused for its first member that does not decode. -/
theorem ofMembers_eq_error_iff (h : fields.Keyed keys) (hkeys : Json.KeysIncrease (.obj ms)) :
    fields.ofMembers .inPlace ms = .error e ↔
      ms.findSome? (fun m => fields.fault? .inPlace m.1 m.2) = some e := by
  refine ⟨h.findSome?_of_error, fun hfirst => ?_⟩
  cases hread : fields.ofMembers .inPlace ms with
  | error e' => rw [Option.some.inj ((h.findSome?_of_error hread).symm.trans hfirst)]
  | ok x =>
    -- The member that does not decode is the one that its key is read from.
    obtain ⟨m, hm, hfault⟩ := List.exists_of_findSome?_eq_some hfirst
    obtain ⟨k, hk, hname, hdecode⟩ := h.fault_iff.mp hfault
    have hlookup : ms.lookup k.name = some m.2 := Json.lookup_of_mem hkeys (hname ▸ hm)
    have hfills := h.ok_iff.mp (ofMembers_eq_ok_iff.mp hread) k hk
    rw [hlookup] at hfills
    exact absurd (hdecode.symm.trans hfills) (by simp)

/-- Members that hold the same for each key and offend in the same way are read alike. -/
theorem ofMembers_congr (h : fields.Keyed keys)
    (hholds : ∀ x, Holds keys ms x ↔ Holds keys ms' x)
    (hfault : ms.findSome? (fun m => fields.fault? .inPlace m.1 m.2) =
      ms'.findSome? fun m => fields.fault? .inPlace m.1 m.2) :
    fields.ofMembers .inPlace ms = fields.ofMembers .inPlace ms' := by
  have hok (x : α) :
      fields.ofMembers .inPlace ms = .ok x ↔ fields.ofMembers .inPlace ms' = .ok x := by
    rw [ofMembers_eq_ok_iff, ofMembers_eq_ok_iff, h.ok_iff, h.ok_iff, hholds]
  cases hread : fields.ofMembers .inPlace ms with
  | ok x => exact ((hok x).mp hread).symm
  | error e =>
    cases hread' : fields.ofMembers .inPlace ms' with
    | ok x => exact absurd ((hok x).mpr hread') (by simp [hread])
    | error e' =>
      -- Both are refused for the first member at fault, which is the same.
      have hsame := (h.findSome?_of_error hread).symm.trans
        (hfault.trans (h.findSome?_of_error hread'))
      rw [Option.some.inj hsame]

/-- Only the members that a key names are looked at. -/
theorem ofMembers_filter (h : fields.Keyed keys) :
    fields.ofMembers .inPlace (ms.filter fun m => m.1 ∈ names keys) =
      fields.ofMembers .inPlace ms := by
  refine h.ofMembers_congr (fun x => ?_) (findSome?_filter_of_eq_none fun m hm => ?_)
  · refine forall₂_congr fun k hk => ?_
    have hname : k.name ∈ names keys := List.mem_map_of_mem hk
    rw [Json.lookup_filter_of_mem hname]
  · exact h.fault_unnamed (by simpa using hm) m.2

/-- Only what counts for the decoder of its key is looked at in a member. -/
theorem ofMembers_map (h : fields.Keyed keys) {f : String → Json → Json}
    (hf : ∀ k ∈ keys, ∀ j, k.decode .inPlace (f k.name j) = k.decode .inPlace j) :
    fields.ofMembers .inPlace (ms.map fun m => (m.1, f m.1 m.2)) =
      fields.ofMembers .inPlace ms := by
  refine h.ofMembers_congr (fun x => ?_) ?_
  · refine forall₂_congr fun k hk => ?_
    rw [Json.lookup_map_value]
    cases ms.lookup k.name with
    | none => rfl
    | some j => exact iff_of_eq (congrArg (· = _) (hf k hk j))
  · rw [List.findSome?_map]
    congr 1
    funext m
    refine Option.ext fun e => ?_
    rw [Function.comp_apply, h.fault_iff, h.fault_iff]
    refine exists_congr fun k => and_congr_right fun hk => and_congr_right fun hname => ?_
    rw [← hname, hf k hk]

end Keyed

theorem mapError_id {ε α : Type} {result : Except ε α} : result.mapError id = result := by
  cases result <;> rfl

/-- A record with a default for each field is read by key. -/
theorem ReadByKey.of_keyed {ε : Type} {fields : Fields α} {keys : List (Key α)}
    {read : List (String × Json) → Except ε α} {wrap : DecodeError → ε} (h : fields.Keyed keys)
    (hnull : ∀ k ∈ keys, ∃ e, k.decode .inPlace .null = .error e)
    (hread : ∀ ms, read ms = (fields.ofMembers .inPlace ms).mapError wrap) :
    ReadByKey read wrap keys := by
  have hok {ms : List (String × Json)} {x : α} : read ms = .ok x ↔ Holds keys ms x := by
    rw [hread, ← h.ok_iff, ← ofMembers_eq_ok_iff]
    cases fields.ofMembers .inPlace ms <;> simp [Except.mapError]
  have hexists {ms : List (String × Json)} : (∃ x, read ms = .ok x) ↔
      ∀ k ∈ keys, ∀ j, ms.lookup k.name = some j → ∃ v, k.decode .inPlace j = .ok v := by
    simp only [hok, ← h.ok_iff, h.exists_ok_iff, exists_fills_iff]
  constructor
  case exists_ok_iff => exact hexists
  case ok_iff => exact hok
  case null_refused => exact hnull
  case only_named =>
    intro ms ms' hsame
    rw [hread, hread, ← h.ofMembers_filter, hsame, h.ofMembers_filter]
  case error_iff =>
    intro ms e hkeys
    have hwrap : read ms = .error e ↔
        ∃ fault, fields.ofMembers .inPlace ms = .error fault ∧ e = wrap fault := by
      rw [hread]
      cases fields.ofMembers .inPlace ms <;> simp [Except.mapError, eq_comm]
    simp only [hwrap, h.ofMembers_eq_error_iff hkeys, List.findSome?_eq_some_iff,
      h.fault_iff, h.fault_eq_none_iff]
    constructor
    · rintro ⟨fault, ⟨before, m, after, hsplit, hm, hbefore⟩, rfl⟩
      exact ⟨before, m, after, fault, hsplit, hbefore, hm, rfl⟩
    · rintro ⟨before, m, after, fault, hsplit, hbefore, hm, rfl⟩
      exact ⟨fault, ⟨before, m, after, hsplit, hm, hbefore⟩, rfl⟩
  case change =>
    intro ms x hx k hk j v hv
    have hother {other : Key α} (hne : other.name ≠ k.name) :
        (Json.insertMember k.name j ms).lookup other.name = ms.lookup other.name :=
      Json.lookup_insertMember_of_ne hne j ms
    have hself : (Json.insertMember k.name j ms).lookup k.name = some j :=
      Json.lookup_insertMember_self k.name j ms
    obtain ⟨y, hy⟩ : ∃ y, read (Json.insertMember k.name j ms) = .ok y := by
      refine hexists.mpr fun other hmem j' hj' => ?_
      by_cases hname : other.name = k.name
      · obtain rfl := List.inj_on_of_nodup_map h.nodup hmem hk hname
        rw [hself] at hj'
        exact ⟨v, Option.some.inj hj' ▸ hv⟩
      · rw [hother hname] at hj'
        exact hexists.mp ⟨x, hx⟩ other hmem j' hj'
    refine ⟨y, hy, ?_, fun other hmem hne => ?_⟩
    · have hfills := hok.mp hy k hk
      rw [hself] at hfills
      exact hfills.unique hv
    · have hfills := hok.mp hy other hmem
      rw [hother hne] at hfills
      exact hfills.unique (hok.mp hx other hmem)

end Keys

end Fields

end EditorBridge
