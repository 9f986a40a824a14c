import EditorBridge.Json.Reader.Numeral

/-!
# Reading strings

`readStringBody` reads a string after its opening quote, up to and with the closing one.  An
escape with four hexadecimal digits gives a UTF-16 unit: a leading surrogate must be followed by
the escape of a trailing one, and the two give one character.

Main statement: what is left after a string is shorter than the text (`readStringBody_length`).
-/

namespace EditorBridge.Json

/-- The value of a hexadecimal digit. -/
def hexValue? (c : Char) : Option Nat :=
  if c.isDigit then some (digitValue c)
  else if 'a' ≤ c ∧ c ≤ 'f' then some (c.toNat - 'a'.toNat + 10)
  else if 'A' ≤ c ∧ c ≤ 'F' then some (c.toNat - 'A'.toNat + 10)
  else none

/-- The number that four hexadecimal digits write. -/
def hexNumber? (a b c d : Char) : Option Nat := do
  let a ← hexValue? a
  let b ← hexValue? b
  let c ← hexValue? c
  let d ← hexValue? d
  return ((a * 16 + b) * 16 + c) * 16 + d

/-- Reads the four hexadecimal digits of an escape.  The text ends inside a string if it has
fewer than four bytes left. -/
def readHex : List Char → Reading Nat
  | a :: b :: c :: d :: rest =>
    match hexNumber? a b c d with
    | some n => .ok (n, rest)
    | none => .error ⟨.invalidEscape, a :: b :: c :: d :: rest, 4⟩
  | s =>
    if byteCount s < 4 then .error (.here .eofInString [])
    else .error ⟨.invalidEscape, s, 4⟩

/-- Whether a UTF-16 unit is the first of a pair. -/
def isLeadingSurrogate (n : Nat) : Bool :=
  0xd800 ≤ n && n < 0xdc00

/-- Whether a UTF-16 unit is the second of a pair. -/
def isTrailingSurrogate (n : Nat) : Bool :=
  0xdc00 ≤ n && n < 0xe000

/-- Reads the second half of a pair, from the backslash of its escape on. -/
def readTrailingSurrogate (leading : Nat) : List Char → Reading Char
  | [] => .error (.here .eofInString [])
  | '\\' :: [] => .error (.here .eofInString [])
  | '\\' :: 'u' :: rest =>
    match readHex rest with
    | .error fault => .error fault
    | .ok (trailing, rest) =>
      if isTrailingSurrogate trailing then
        .ok (Char.ofNat (0x10000 + (leading - 0xd800) * 0x400 + (trailing - 0xdc00)), rest)
      else .error (.here .loneSurrogate rest)
  | '\\' :: rest => .error (.atNext .unexpectedEndOfHex rest)
  | rest => .error (.atNext .unexpectedEndOfHex rest)

/-- Reads the digits of an escape by code, and the rest of a pair. -/
def readUnicodeEscape (s : List Char) : Reading Char :=
  match readHex s with
  | .error fault => .error fault
  | .ok (n, rest) =>
    if isTrailingSurrogate n then .error (.here .loneSurrogate rest)
    else if isLeadingSurrogate n then readTrailingSurrogate n rest
    else .ok (Char.ofNat n, rest)

/-- Reads an escape, after its backslash. -/
def readEscape : List Char → Reading Char
  | [] => .error (.here .eofInString [])
  | '\"' :: rest => .ok ('\"', rest)
  | '\\' :: rest => .ok ('\\', rest)
  | '/' :: rest => .ok ('/', rest)
  | 'b' :: rest => .ok ('\x08', rest)
  | 'f' :: rest => .ok ('\x0c', rest)
  | 'n' :: rest => .ok ('\n', rest)
  | 'r' :: rest => .ok ('\r', rest)
  | 't' :: rest => .ok ('\t', rest)
  | 'u' :: rest => readUnicodeEscape rest
  | s => .error (.atNext .invalidEscape s)

theorem readHex_length {s rest : List Char} {n : Nat} (h : readHex s = .ok (n, rest)) :
    rest.length < s.length := by
  unfold readHex at h
  split at h
  · split at h
    · simp only [Except.ok.injEq, Prod.mk.injEq] at h
      simp only [← h.2, List.length_cons]
      omega
    · simp at h
  · split at h <;> simp at h

theorem readTrailingSurrogate_length {leading : Nat} {s rest : List Char} {c : Char}
    (h : readTrailingSurrogate leading s = .ok (c, rest)) : rest.length < s.length := by
  unfold readTrailingSurrogate at h
  split at h
  · simp at h
  · simp at h
  · split at h
    · simp at h
    · next t n rest' heq =>
      have hp := readHex_length heq
      split at h
      · simp only [Except.ok.injEq, Prod.mk.injEq] at h
        simp only [← h.2, List.length_cons]
        omega
      · simp at h
  · simp at h
  · simp at h

theorem readUnicodeEscape_length {s rest : List Char} {c : Char}
    (h : readUnicodeEscape s = .ok (c, rest)) : rest.length < s.length := by
  unfold readUnicodeEscape at h
  split at h
  · simp at h
  · next n rest' heq =>
    have hp := readHex_length heq
    split at h
    · simp at h
    · split at h
      · exact Nat.lt_trans (readTrailingSurrogate_length h) hp
      · simp only [Except.ok.injEq, Prod.mk.injEq] at h
        simpa [← h.2] using hp

/-- An escape takes at least one character. -/
theorem readEscape_length {s rest : List Char} {c : Char}
    (h : readEscape s = .ok (c, rest)) : rest.length < s.length := by
  unfold readEscape at h
  split at h
  all_goals first
    | exact Nat.lt_succ_of_lt (readUnicodeEscape_length h)
    | (simp only [Except.ok.injEq, Prod.mk.injEq] at h; simp [← h.2])
    | simp at h

/-- Reads a string after its opening quote; `done` holds its characters so far, the last first. -/
def readStringBody (done : List Char) : List Char → Reading String
  | [] => .error (.here .eofInString [])
  | c :: rest =>
    if c = '\"' then .ok (String.ofList done.reverse, rest)
    else if c = '\\' then
      match _h : readEscape rest with
      | .ok (escaped, rest') => readStringBody (escaped :: done) rest'
      | .error fault => .error fault
    else if c.toNat < 0x20 then .error (.here .controlCharacter rest)
    else readStringBody (c :: done) rest
termination_by s => s.length
decreasing_by
  · have := readEscape_length ‹_›
    simp only [List.length_cons]
    omega
  · simp

/-- A string takes at least its closing quote. -/
theorem readStringBody_length {done s rest : List Char} {t : String}
    (h : readStringBody done s = .ok (t, rest)) : rest.length < s.length := by
  fun_induction readStringBody done s with
  | case1 => simp at h
  | case2 => simp_all
  | case3 done rest' escaped rest'' he _ ih =>
    have := readEscape_length he
    have := ih h
    simp only [List.length_cons]
    omega
  | case4 => simp at h
  | case5 => simp at h
  | case6 done c rest' _ _ _ ih =>
    have := ih h
    simp only [List.length_cons]
    omega

end EditorBridge.Json
