import EditorBridge.Hover.Link
import EditorBridge.Proofs.Json.RoundTrip
import EditorBridge.Proofs.Protocol.Keys

/-!
# What a clicked command receives

An editor reads the destination of a command link as a URI: it decodes the percent signs to
bytes, the bytes to text as UTF-8 and the text as JSON; an array gives the arguments one by one,
any other value is the only argument (`CommandUri.arguments?`).

Main statement: what it reads are the arguments of the link (`CommandLink.arguments_delivered`).
A single argument is written bare unless it is an array, which would be taken apart.  That objects
among the arguments hold their members by key is true of every link that was read from a text
(`CommandLink.keysIncrease_arguments_of_read`).
-/

namespace EditorBridge

/-! ### Percent encoding -/

namespace Text

/-- The bytes of a percent-encoded text; none if a percent sign lacks its two digits. -/
def percentDecode? : List Char → Option (List UInt8)
  | [] => some []
  | '%' :: a :: b :: rest => do
    let high ← Json.hexValue? a
    let low ← Json.hexValue? b
    let bytes ← percentDecode? rest
    return UInt8.ofNat (high * 16 + low) :: bytes
  | '%' :: _ => none
  | c :: rest => do
    let bytes ← percentDecode? rest
    return String.utf8EncodeChar c ++ bytes

theorem hexValue?_upperHexDigit : ∀ n < 16, Json.hexValue? (upperHexDigit n) = some n := by
  decide

theorem percentDecode?_percentByte (b : UInt8) (s : List Char) :
    percentDecode? (percentByte b ++ s) = (percentDecode? s).map (b :: ·) := by
  have hb := b.toNat_lt
  have hhigh := hexValue?_upperHexDigit (b.toNat / 16) (by omega)
  have hlow := hexValue?_upperHexDigit (b.toNat % 16) (by omega)
  have hvalue : UInt8.ofNat (b.toNat / 16 * 16 + b.toNat % 16) = b := by
    rw [Nat.div_add_mod', UInt8.ofNat_toNat]
  simp only [percentByte, List.cons_append, List.nil_append, percentDecode?, hhigh, hlow]
  cases percentDecode? s with
  | none => rfl
  | some bytes => exact congrArg (fun first => some (first :: bytes)) hvalue

theorem percentDecode?_percentBytes (bytes : List UInt8) (s : List Char) :
    percentDecode? (bytes.flatMap percentByte ++ s) = (percentDecode? s).map (bytes ++ ·) := by
  induction bytes with
  | nil => simp
  | cons b bytes ih =>
    rw [List.flatMap_cons, List.append_assoc, percentDecode?_percentByte, ih, Option.map_map]
    rfl

theorem percentDecode?_cons {c : Char} (h : c ≠ '%') (s : List Char) :
    percentDecode? (c :: s) = (percentDecode? s).map (String.utf8EncodeChar c ++ ·) := by
  rw [percentDecode?]
  · cases percentDecode? s <;> rfl
  · exact fun _ _ _ hc => absurd hc h
  · exact fun hc => absurd hc h

/-- An encoded text holds plain characters, percent signs and digits. -/
theorem of_mem_percentEncode {plain : Char → Bool} {s : List Char} {c : Char}
    (h : c ∈ percentEncode plain s) : plain c = true ∨ c = '%' ∨ c.isAlphanum = true := by
  have hdigit : ∀ n < 16, (upperHexDigit n).isAlphanum = true := by decide
  obtain ⟨d, -, hd⟩ := List.mem_flatMap.mp h
  split at hd
  · next hplain =>
    rw [List.mem_singleton.mp hd]
    exact .inl hplain
  · obtain ⟨b, -, hb⟩ := List.mem_flatMap.mp hd
    have hb8 := b.toNat_lt
    simp only [percentByte, List.mem_cons, List.not_mem_nil, or_false] at hb
    rcases hb with rfl | rfl | rfl
    · exact .inr (.inl rfl)
    · exact .inr (.inr (hdigit _ (by omega)))
    · exact .inr (.inr (hdigit _ (by omega)))

/-- Decoding gives the bytes of the text that was encoded. -/
theorem percentDecode?_percentEncode {plain : Char → Bool} (h : plain '%' = false)
    (s : List Char) :
    percentDecode? (percentEncode plain s) = some (s.flatMap String.utf8EncodeChar) := by
  induction s with
  | nil => rfl
  | cons c s ih =>
    rw [percentEncode, List.flatMap_cons, ← percentEncode]
    split
    · next hplain =>
      have hc : c ≠ '%' := by
        rintro rfl
        exact absurd hplain (by simp [h])
      rw [List.singleton_append, percentDecode?_cons hc, ih]
      rfl
    · rw [percentDecode?_percentBytes, ih]
      rfl

end Text

/-! ### The destination of a link -/

namespace CommandUri

/-- The text that percent-encoded bytes write in UTF-8. -/
def text? (s : List Char) : Option String :=
  (Text.percentDecode? s).bind fun bytes => String.fromUTF8? bytes.toByteArray

/-- The arguments that a JSON value carries. -/
def spread : Json → List Json
  | .arr arguments => arguments
  | single => [single]

/-- The arguments that a command receives from what stands behind the question mark of its URI;
none if that does not write a JSON value. -/
def arguments? (s : List Char) : Option (List Json) :=
  match (text? s).map (Json.readWithin none) with
  | some (.ok payload) => some (spread payload)
  | _ => none

theorem text?_percentEncode {plain : Char → Bool} (h : plain '%' = false) (s : List Char) :
    text? (Text.percentEncode plain s) = some (String.ofList s) := by
  rw [text?, Text.percentDecode?_percentEncode h, Option.bind_some]
  exact dif_pos ByteArray.isValidUTF8_utf8Encode

end CommandUri

namespace CommandLink

open CommandUri Fields Json

theorem spread_payload (arguments : List Json) : spread (payload arguments) = arguments := by
  match arguments with
  | [] => rfl
  | [single] => cases single <;> rfl
  | _ :: _ :: _ => rfl

/-- What holds of every value within the arguments holds within their payload, if it holds of
every array. -/
theorem everywhere_payload {P : Json → Prop} {arguments : List Json}
    (harr : ∀ items, P (.arr items)) (h : ∀ a ∈ arguments, a.Everywhere P) :
    (payload arguments).Everywhere P := by
  have hitems : EverywhereItems P arguments := everywhereItems_iff.mpr h
  match arguments with
  | [] | _ :: _ :: _ => exact ⟨harr _, hitems⟩
  | [single] =>
    rw [payload]
    split
    · exact ⟨harr _, hitems⟩
    · exact hitems.1

theorem mem_encodedArguments {arguments : List Json} {c : Char}
    (h : c ∈ encodedArguments arguments) :
    c.isAlphanum = true ∨ c ∈ ['-', '_', '.', '!', '~', '*', '%'] := by
  rcases Text.of_mem_percentEncode h with hplain | rfl | halnum
  · rw [Text.isPlainInArgument, Bool.or_eq_true] at hplain
    rcases hplain with halnum | hmark
    · exact .inl halnum
    · exact .inr (List.mem_append_left ['%'] (List.contains_iff_mem.mp hmark))
  · exact .inr (by decide)
  · exact .inl halnum

/-- The arguments of a link are read back from its destination. -/
theorem arguments?_encodedArguments {arguments : List Json}
    (hkeys : ∀ a ∈ arguments, a.Everywhere KeysIncrease)
    (hnumbers : ∀ a ∈ arguments, a.Everywhere NumeralRereads) :
    arguments? (encodedArguments arguments) = some arguments := by
  have htext : text? (encodedArguments arguments) = some (payload arguments).print :=
    text?_percentEncode (by decide) _
  have hread : readWithin none (payload arguments).print = .ok (payload arguments) :=
    readWithin_print (everywhere_payload (fun _ => trivial) hkeys)
      (everywhere_payload (fun _ => trivial) hnumbers) (by simp [Allows])
  rw [CommandUri.arguments?, htext, Option.map_some, hread]
  exact congrArg some (spread_payload arguments)

/-- **A command link delivers its arguments.**  Between the question mark and the tooltip of the
link stand only letters, digits and a few marks, and what an editor reads from them are the
arguments of the link, whatever values and however many they are.  Objects hold their members by
key, and the text of each number is assumed to read back as that number. -/
theorem arguments_delivered (link : CommandLink)
    (hkeys : ∀ a ∈ link.arguments, a.Everywhere KeysIncrease)
    (hnumbers : ∀ a ∈ link.arguments, a.Everywhere NumeralRereads) :
    ∃ destination : List Char,
      link.render = '[' :: escapeMarkdown labelSpecials link.title.toList ++
          "](command:".toList ++ link.command.toList ++ '?' :: destination ++ " '".toList ++
          escapeMarkdown tooltipSpecials link.shownTooltip.toList ++ "')".toList ∧
        (∀ c ∈ destination,
          c.isAlphanum = true ∨ c ∈ ['-', '_', '.', '!', '~', '*', '%']) ∧
        arguments? destination = some link.arguments :=
  ⟨encodedArguments link.arguments, rfl, fun _ hc => mem_encodedArguments hc,
    arguments?_encodedArguments hkeys hnumbers⟩

/-! ### Links that are read -/

/-- What holds of every value within what a link is decoded from holds within its arguments. -/
theorem everywhere_arguments_of_decode {P : Json → Prop} {source : Source} {j : Json}
    {link : CommandLink} (h : decode source j = .ok link) (hj : j.Everywhere P) :
    ∀ a ∈ link.arguments, a.Everywhere P := by
  have hfilled {given : Option Json} {arguments : List Json}
      (hfills : Fills (.list .any) source [] given arguments)
      (hgiven : ∀ v ∈ given, v.Everywhere P) : ∀ a ∈ arguments, a.Everywhere P := by
    cases given with
    | none =>
      obtain rfl : arguments = [] := hfills
      exact fun a ha => absurd ha List.not_mem_nil
    | some v =>
      obtain rfl : v = .arr arguments := Decoder.exact_values.decode_eq_ok_iff.mp hfills
      exact everywhereItems_iff.mp (hgiven _ rfl).2
  cases j with
  | obj ms =>
    obtain ⟨_, arguments, hthree, harguments, rfl⟩ := fromMembers_seq_ok (fromMembers_of_ofMembers h)
    obtain ⟨_, tooltip, htwo, -, rfl⟩ := fromMembers_seq_ok hthree
    obtain ⟨_, command, hone, -, rfl⟩ := fromMembers_seq_ok htwo
    obtain ⟨title, -, rfl⟩ := fromMembers_map_ok hone
    refine hfilled (fromMembers_withDefault_ok harguments) fun v hv => ?_
    exact everywhereMembers_iff.mp hj.2 _ (mem_of_lookup hv)
  | arr items =>
    obtain ⟨short, hitems⟩ := fromItems_of_ofItems h
    obtain ⟨_, arguments, _, hthree, harguments, rfl⟩ := fromItems_seq_ok hitems
    obtain ⟨_, tooltip, _, htwo, htooltip, rfl⟩ := fromItems_seq_ok hthree
    obtain ⟨_, command, _, hone, hcommand, rfl⟩ := fromItems_seq_ok htwo
    obtain ⟨title, htitle, rfl⟩ := fromItems_map_ok hone
    obtain rfl := fromItems_field_ok htitle
    obtain rfl := fromItems_field_ok hcommand
    obtain rfl := fromItems_field_ok htooltip
    refine hfilled (fromItems_withDefault_ok harguments).1 fun v hv => ?_
    have hmem : v ∈ items :=
      List.mem_of_mem_tail (List.mem_of_mem_tail (List.mem_of_mem_tail (List.mem_of_head? hv)))
    exact everywhereItems_iff.mp hj.2 v hmem
  | _ => cases h

/-- A link that was read from a text holds its arguments by key. -/
theorem keysIncrease_arguments_of_read {text : String} {j : Json} {source : Source}
    {link : CommandLink} (hread : Json.read text = .ok j) (h : decode source j = .ok link) :
    ∀ a ∈ link.arguments, a.Everywhere KeysIncrease :=
  everywhere_arguments_of_decode h (keysIncrease_of_readWithin hread)

/-- A link with one argument, an array, that holds an object, an empty array, the least and the
greatest integers and a fraction. -/
def nestedLink : CommandLink where
  title := "Run ]"
  command := "x.run"
  tooltip := some "it's"
  arguments := [.arr [.obj [("a b", .str "é\"\n%"), ("b", .null)], .arr [],
    .int (-9223372036854775808), .int 18446744073709551615,
    .float ⟨false, 6755399441055744, -52⟩]]

/-- A text that writes this link, with the keys in another order. -/
def nestedText : String :=
  "\x7b\"title\": \"Run ]\", \"command\": \"x.run\", \"tooltip\": \"it's\", \"arguments\": " ++
    "[[\x7b\"b\": null, \"a b\": \"é\\\"\\n%\"\x7d, [], " ++
    "-9223372036854775808, 18446744073709551615, 1.5]]\x7d"

theorem arguments_delivered_sample :
    Json.read nestedText = .ok nestedLink.toJson ∧
    decode .inPlace nestedLink.toJson = .ok nestedLink ∧
    (∀ a ∈ nestedLink.arguments, a.Everywhere KeysIncrease) ∧
    (∀ a ∈ nestedLink.arguments, a.Everywhere NumeralRereads) ∧
    ∃ destination : List Char,
      nestedLink.render
        = "[Run \\]](command:x.run?".toList ++ destination ++ " 'it\\'s')".toList ∧
      arguments? destination = some nestedLink.arguments := by
  have htext : Json.read nestedText = .ok nestedLink.toJson := by decide +kernel
  have hlink : decode .inPlace nestedLink.toJson = .ok nestedLink := rfl
  have hkeys : ∀ a ∈ nestedLink.arguments, a.Everywhere KeysIncrease :=
    keysIncrease_arguments_of_read htext hlink
  have hfraction : NumeralRereads (.float ⟨false, 6755399441055744, -52⟩) := by
    show Json.read _ = _
    decide +kernel
  have hnumbers : ∀ a ∈ nestedLink.arguments, a.Everywhere NumeralRereads := by
    simp [nestedLink, Everywhere, EverywhereItems, EverywhereMembers, hfraction,
      rereads_int (i := -9223372036854775808) (by decide) (by decide),
      rereads_int (i := 18446744073709551615) (by decide) (by decide)]
    simp [NumeralRereads]
  obtain ⟨destination, hrender, -, hread⟩ := arguments_delivered nestedLink hkeys hnumbers
  refine ⟨htext, hlink, hkeys, hnumbers, destination, ?_, hread⟩
  simpa [nestedLink, escapeMarkdown, labelSpecials, tooltipSpecials, shownTooltip] using hrender

end CommandLink

end EditorBridge
