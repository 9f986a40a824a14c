import EditorBridge.Json.Basic
import EditorBridge.Json.SyntaxError

/-!
# Reading numbers

A numeral without fraction and exponent that fits 64 bits is an integer; every other numeral,
and `-0`, is a double.  Digits are gathered into a significand below `2 ^ 64`.  Whole digits
beyond that only count as powers of ten, fractional ones are ignored, and the double is computed
from the significand by one multiplication or division by a power of ten (`scaleByTen`), each
step rounded.  So a numeral of many digits may read as a neighbour of the nearest double.

Main statement: what is left after a numeral is shorter than the text (`readUnsigned_length`).
-/

namespace EditorBridge.Json

/-- A part of a text that has been read, and the rest. -/
abbrev Reading (α : Type) := Except Fault (α × List Char)

/-- The value of a digit. -/
def digitValue (c : Char) : Nat :=
  c.toNat - '0'.toNat

/-- Significands stay below this. -/
def significandLimit : Nat := UInt64.size

/-- Takes digits into a significand while it stays below a limit; also gives their number. -/
def gatherDigits (limit : Nat) : Nat → Nat → List Char → Nat × Nat × List Char
  | significand, count, [] => (significand, count, [])
  | significand, count, c :: rest =>
    if c.isDigit ∧ significand * 10 + digitValue c < limit then
      gatherDigits limit (significand * 10 + digitValue c) (count + 1) rest
    else (significand, count, c :: rest)

/-- The power of ten, rounded to a double. -/
def powerOfTen (n : Nat) : Double :=
  (Double.ofNat? (Nat.pow 10 n)).getD (Double.zero false)

/-- The exponents of ten with a power that is a double are those up to this one. -/
def greatestPower : Nat := 308

/-- A number times a power of ten: one multiplication or division where the power is a double,
and before it divisions by the greatest such power.  None if the number becomes too large. -/
def scaleByTen (x : Double) (exponent : Int) : Option Double :=
  if exponent.natAbs ≤ greatestPower then
    if 0 ≤ exponent then x.mul? (powerOfTen exponent.natAbs)
    else x.div? (powerOfTen exponent.natAbs)
  else if x.isZero then some x
  else if _h : 0 ≤ exponent then none
  else
    match x.div? (powerOfTen greatestPower) with
    | some y => scaleByTen y (exponent + greatestPower)
    | none => none
termination_by exponent.natAbs
decreasing_by
  simp only [greatestPower] at *
  omega

/-- The double with a sign, a significand and an exponent of ten. -/
def doubleOf (negative : Bool) (significand : Nat) (exponent : Int) (rest : List Char) :
    Reading Json :=
  match (Double.ofNat? significand).bind (scaleByTen · exponent) with
  | some x => .ok (.float (if negative then x.neg else x), rest)
  | none => .error (.here .numberOutOfRange rest)

/-- Exponents stay below this. -/
def exponentLimit : Nat := 1 <<< 31

/-- Reads the sign of an exponent: whether it is negative. -/
def readExponentSign : List Char → Bool × List Char
  | '+' :: rest => (false, rest)
  | '-' :: rest => (true, rest)
  | rest => (false, rest)

/-- Reads an exponent, after its letter. -/
def readExponent (negative : Bool) (significand : Nat) (exponent : Int) (s : List Char) :
    Reading Json :=
  let (down, s) := readExponentSign s
  match s with
  | [] => .error (.here .eofInValue [])
  | c :: rest =>
    if c.isDigit then
      let (e, _, rest) := gatherDigits exponentLimit (digitValue c) 1 rest
      match rest with
      | d :: more =>
        if d.isDigit then
          -- The exponent has reached its limit: the number is too large, or it counts as zero.
          if significand ≠ 0 ∧ down = false then .error (.here .numberOutOfRange more)
          else .ok (.float (Double.zero negative), more.dropWhile Char.isDigit)
        else doubleOf negative significand (if down then exponent - e else exponent + e) rest
      | [] => doubleOf negative significand (if down then exponent - e else exponent + e) []
    else .error (.atNext .invalidNumber (c :: rest))

/-- Reads what may follow the digits of a double: an exponent. -/
def readAfterDigits (negative : Bool) (significand : Nat) (exponent : Int) (s : List Char) :
    Reading Json :=
  match s with
  | 'e' :: rest => readExponent negative significand exponent rest
  | 'E' :: rest => readExponent negative significand exponent rest
  | _ => doubleOf negative significand exponent s

/-- Reads a fraction, after its point. -/
def readFraction (negative : Bool) (significand : Nat) (exponent : Int) (s : List Char) :
    Reading Json :=
  let (m, count, rest) := gatherDigits significandLimit significand 0 s
  match rest with
  | [] =>
    if count = 0 then .error (.atNext .eofInValue [])
    else doubleOf negative m (exponent - count) []
  | c :: _ =>
    if c.isDigit then
      -- The significand is full, so the digits that follow change nothing.
      readAfterDigits negative m (exponent - count) (rest.dropWhile Char.isDigit)
    else if count = 0 then .error (.atNext .invalidNumber rest)
    else readAfterDigits negative m (exponent - count) rest

/-- The integer with a sign and a magnitude; a double if it is `-0` or below the least integer. -/
def integerOf (negative : Bool) (magnitude : Nat) (rest : List Char) : Reading Json :=
  if negative = false then .ok (.int magnitude, rest)
  else if 0 < magnitude ∧ magnitude ≤ 1 <<< 63 then .ok (.int (-(magnitude : Int)), rest)
  else doubleOf true magnitude 0 rest

/-- Reads what follows the whole digits of a numeral, all of them in the significand. -/
def readAfterWhole (negative : Bool) (significand : Nat) (s : List Char) : Reading Json :=
  match s with
  | '.' :: rest => readFraction negative significand 0 rest
  | 'e' :: rest => readExponent negative significand 0 rest
  | 'E' :: rest => readExponent negative significand 0 rest
  | _ => integerOf negative significand s

/-- Reads what follows the whole digits that fit the significand, if there are more. -/
def readLong (negative : Bool) (significand : Nat) (s : List Char) : Reading Json :=
  let rest := s.dropWhile Char.isDigit
  let exponent : Int := (s.takeWhile Char.isDigit).length
  match rest with
  | '.' :: rest => readFraction negative significand exponent rest
  | _ => readAfterDigits negative significand exponent rest

/-- Reads a numeral, after its sign. -/
def readUnsigned (negative : Bool) : List Char → Reading Json
  | [] => .error (.here .eofInValue [])
  | c :: rest =>
    if c = '0' then
      -- A numeral that starts with zero has no further whole digits.
      match rest with
      | d :: _ =>
        if d.isDigit then .error (.atNext .invalidNumber rest)
        else readAfterWhole negative 0 rest
      | [] => readAfterWhole negative 0 rest
    else if c.isDigit then
      let (m, _, rest) := gatherDigits significandLimit (digitValue c) 1 rest
      match rest with
      | d :: _ => if d.isDigit then readLong negative m rest else readAfterWhole negative m rest
      | [] => readAfterWhole negative m rest
    else .error (.atNext .invalidNumber (c :: rest))

/-! ### What is left is shorter -/

theorem gatherDigits_length (limit : Nat) :
    ∀ (m count : Nat) (s : List Char), (gatherDigits limit m count s).2.2.length ≤ s.length
  | _, _, [] => by simp [gatherDigits]
  | m, count, c :: rest => by
    rw [gatherDigits]
    split
    · exact Nat.le_succ_of_le (gatherDigits_length limit _ _ rest)
    · simp

theorem length_dropWhile_le (p : Char → Bool) (s : List Char) :
    (s.dropWhile p).length ≤ s.length :=
  (List.dropWhile_sublist p).length_le

theorem readExponentSign_length (s : List Char) : (readExponentSign s).2.length ≤ s.length := by
  unfold readExponentSign
  split <;> simp

theorem doubleOf_length {negative : Bool} {m : Nat} {e : Int} {s rest : List Char} {j : Json}
    (h : doubleOf negative m e s = .ok (j, rest)) : rest = s := by
  unfold doubleOf at h
  split at h <;> simp_all

theorem readExponent_length {negative : Bool} {m : Nat} {e : Int} {s rest : List Char} {j : Json}
    (h : readExponent negative m e s = .ok (j, rest)) : rest.length ≤ s.length := by
  have hs := readExponentSign_length s
  unfold readExponent at h
  simp only at h
  split at h
  · simp at h
  · next c t heq =>
    rw [heq] at hs
    split at h
    · have hg := gatherDigits_length exponentLimit (digitValue c) 1 t
      split at h
      · next d more hd =>
        rw [hd] at hg
        split at h
        · split at h
          · simp at h
          · simp only [Except.ok.injEq, Prod.mk.injEq] at h
            obtain ⟨-, rfl⟩ := h
            have := length_dropWhile_le Char.isDigit more
            simp only [List.length_cons] at hs hg
            omega
        · rw [doubleOf_length h, hd]
          simp only [List.length_cons] at hs hg ⊢
          omega
      · have := doubleOf_length h
        simp [this]
    · simp at h

theorem readAfterDigits_length {negative : Bool} {m : Nat} {e : Int} {s rest : List Char}
    {j : Json} (h : readAfterDigits negative m e s = .ok (j, rest)) :
    rest.length ≤ s.length := by
  unfold readAfterDigits at h
  split at h
  · exact Nat.le_succ_of_le (readExponent_length h)
  · exact Nat.le_succ_of_le (readExponent_length h)
  · exact Nat.le_of_eq (congrArg _ (doubleOf_length h))

theorem readFraction_length {negative : Bool} {m : Nat} {e : Int} {s rest : List Char} {j : Json}
    (h : readFraction negative m e s = .ok (j, rest)) : rest.length ≤ s.length := by
  have hg := gatherDigits_length significandLimit m 0 s
  unfold readFraction at h
  simp only at h
  split at h
  · split at h
    · simp at h
    · simp [doubleOf_length h]
  · next c t heq =>
    rw [heq] at h hg
    split at h
    · have h1 := readAfterDigits_length h
      have h2 := length_dropWhile_le Char.isDigit (c :: t)
      omega
    · split at h
      · simp at h
      · have h1 := readAfterDigits_length h
        omega

theorem readAfterWhole_length {negative : Bool} {m : Nat} {s rest : List Char} {j : Json}
    (h : readAfterWhole negative m s = .ok (j, rest)) : rest.length ≤ s.length := by
  unfold readAfterWhole at h
  split at h
  · exact Nat.le_succ_of_le (readFraction_length h)
  · exact Nat.le_succ_of_le (readExponent_length h)
  · exact Nat.le_succ_of_le (readExponent_length h)
  · unfold integerOf at h
    split at h
    · simp_all
    · split at h
      · simp_all
      · exact Nat.le_of_eq (congrArg _ (doubleOf_length h))

theorem readLong_length {negative : Bool} {m : Nat} {s rest : List Char} {j : Json}
    (h : readLong negative m s = .ok (j, rest)) : rest.length ≤ s.length := by
  have hd := length_dropWhile_le Char.isDigit s
  unfold readLong at h
  simp only at h
  split at h
  · next t heq =>
    rw [heq] at hd
    have := readFraction_length h
    simp only [List.length_cons] at hd
    omega
  · have := readAfterDigits_length h
    omega

/-- A numeral takes at least one character. -/
theorem readUnsigned_length {negative : Bool} {s rest : List Char} {j : Json}
    (h : readUnsigned negative s = .ok (j, rest)) : rest.length < s.length := by
  unfold readUnsigned at h
  split at h
  · simp at h
  · next c t =>
    rw [List.length_cons, Nat.lt_succ_iff]
    split at h
    · split at h
      · split at h
        · simp at h
        · exact readAfterWhole_length h
      · exact readAfterWhole_length h
    · split at h
      · have hg := gatherDigits_length significandLimit (digitValue c) 1 t
        simp only at h
        split at h
        · next d more heq =>
          rw [heq] at h hg
          split at h
          · exact Nat.le_trans (readLong_length h) hg
          · exact Nat.le_trans (readAfterWhole_length h) hg
        · exact Nat.le_trans (readAfterWhole_length h) hg
      · simp at h

end EditorBridge.Json
