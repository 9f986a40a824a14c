import EditorBridge.Json.Reader.StringBody

/-!
# Reading JSON text

The reader keeps a stack of the arrays and objects that are open (`Frame`).  `readValue` reads
the start of a value; `resume` takes a finished value to the innermost open one, and reads on
there.  Each of the two takes at least one character before it calls the other, so the reader
ends because the text does.

Only space, tab, line feed and carriage return are blanks.  Of two members with one key the later
counts.  How many arrays and objects may be open is a parameter (`readWithin`); in `read` it is
at most 127.
-/

namespace EditorBridge.Json

/-- Whether a character may stand between the parts of a text. -/
def isSpace (c : Char) : Bool :=
  c = ' ' || c = '\t' || c = '\n' || c = '\r'

/-- The text from its first character other than a blank on. -/
def skipSpace (s : List Char) : List Char :=
  s.dropWhile isSpace

/-- An open array with its items so far, the last first, or an open object with its members so
far and the key whose value is being read. -/
inductive Frame where
  | items (done : List Json)
  | members (done : List (String × Json)) (key : String)

/-- The number of open arrays and objects that `read` refuses. -/
def depthLimit : Nat := 128

/-- Whether one more array or object beside the open ones reaches the limit, if there is one. -/
def isTooDeep (limit : Option Nat) (stack : List Frame) : Bool :=
  limit.any (· ≤ stack.length + 1)

/-- Reads the rest of a word, after its first letter. -/
def readWord : List Char → List Char → Except Fault (List Char)
  | [], rest => .ok rest
  | _ :: _, [] => .error (.here .eofInValue [])
  | c :: word, d :: rest =>
    if c = d then readWord word rest else .error (.atNext .expectedIdent (d :: rest))

/-- Reads a key after its opening quote, and the colon. -/
def readKey (s : List Char) : Reading String :=
  match readStringBody [] s with
  | .error fault => .error fault
  | .ok (key, rest) =>
    match skipSpace rest with
    | [] => .error (.atNext .eofInObject [])
    | ':' :: rest => .ok (key, rest)
    | rest => .error (.atNext .expectedColon rest)

/-- Reads a value that is neither an array nor an object. -/
def readScalar : List Char → Reading Json
  | [] => .error (.atNext .eofInValue [])
  | 'n' :: rest => (readWord ['u', 'l', 'l'] rest).map (.null, ·)
  | 't' :: rest => (readWord ['r', 'u', 'e'] rest).map (.bool true, ·)
  | 'f' :: rest => (readWord ['a', 'l', 's', 'e'] rest).map (.bool false, ·)
  | '\"' :: rest => (readStringBody [] rest).map fun (s, rest) => (.str s, rest)
  | '-' :: rest => readUnsigned true rest
  | c :: rest =>
    if c.isDigit then readUnsigned false (c :: rest)
    else .error (.atNext .expectedValue (c :: rest))

theorem skipSpace_length (s : List Char) : (skipSpace s).length ≤ s.length :=
  length_dropWhile_le isSpace s

theorem readWord_length {word s rest : List Char} (h : readWord word s = .ok rest) :
    rest.length ≤ s.length := by
  fun_induction readWord word s with
  | case1 => simp_all
  | case2 => simp at h
  | case3 word d rest' ih => exact Nat.le_succ_of_le (ih h)
  | case4 => simp at h

theorem readKey_length {s rest : List Char} {key : String} (h : readKey s = .ok (key, rest)) :
    rest.length < s.length := by
  unfold readKey at h
  split at h
  · simp at h
  · next k t hk =>
    have h1 := readStringBody_length hk
    have h2 := skipSpace_length t
    split at h
    · simp at h
    · next t' ht =>
      rw [ht, List.length_cons] at h2
      simp only [Except.ok.injEq, Prod.mk.injEq] at h
      rw [← h.2]
      omega
    · simp at h

/-- A value takes at least one character. -/
theorem readScalar_length {s rest : List Char} {j : Json} (h : readScalar s = .ok (j, rest)) :
    rest.length < s.length := by
  have word {w t : List Char} {v : Json}
      (h : (readWord w t).map (v, ·) = .ok (j, rest)) : rest.length ≤ t.length := by
    cases hw : readWord w t with
    | error e => simp [hw, Except.map] at h
    | ok r =>
      simp only [hw, Except.map, Except.ok.injEq, Prod.mk.injEq] at h
      exact h.2 ▸ readWord_length hw
  unfold readScalar at h
  split at h
  · simp at h
  · exact Nat.lt_succ_of_le (word h)
  · exact Nat.lt_succ_of_le (word h)
  · exact Nat.lt_succ_of_le (word h)
  · next t =>
    cases ht : readStringBody [] t with
    | error e => simp [ht, Except.map] at h
    | ok p =>
      obtain ⟨text, tail⟩ := p
      have := readStringBody_length ht
      simp only [ht, Except.map, Except.ok.injEq, Prod.mk.injEq] at h
      rw [← h.2]
      exact Nat.lt_succ_of_lt this
  · exact Nat.lt_succ_of_lt (readUnsigned_length h)
  · split at h
    · exact readUnsigned_length h
    · simp at h

theorem skipSpace_cons_length {s rest : List Char} {c : Char} (h : skipSpace s = c :: rest) :
    rest.length < s.length := by
  have := skipSpace_length s
  rw [h, List.length_cons] at this
  omega

theorem skipSpace_eq_length {s rest : List Char} (h : skipSpace s = rest) :
    rest.length ≤ s.length :=
  h ▸ skipSpace_length s

mutual

/-- Reads a value within the open arrays and objects, and then the rest of the text. -/
def readValue (limit : Option Nat) (stack : List Frame) (s : List Char) : Except Fault Json :=
  match _hs : skipSpace s with
  | '[' :: inner =>
    if isTooDeep limit stack then .error (.atNext .recursionLimit ('[' :: inner))
    else
      match _ht : skipSpace inner with
      | [] => .error (.atNext .eofInList [])
      | ']' :: rest => resume limit stack (.arr []) rest
      -- The first item starts here.
      | item => readValue limit (.items [] :: stack) item
  | '\x7b' :: inner =>
    if isTooDeep limit stack then .error (.atNext .recursionLimit ('\x7b' :: inner))
    else
      match _ht : skipSpace inner with
      | [] => .error (.atNext .eofInObject [])
      | '\x7d' :: rest => resume limit stack (.obj []) rest
      | '\"' :: quoted =>
        match _hk : readKey quoted with
        | .error fault => .error fault
        | .ok (key, rest) => readValue limit (.members [] key :: stack) rest
      | other => .error (.atNext .keyMustBeString other)
  | scalar =>
    match _hr : readScalar scalar with
    | .error fault => .error fault
    | .ok (value, rest) => resume limit stack value rest
termination_by s.length
decreasing_by
  · have := skipSpace_cons_length _hs
    have := skipSpace_cons_length _ht
    omega
  · have := skipSpace_cons_length _hs
    have := skipSpace_eq_length _ht
    omega
  · have := skipSpace_cons_length _hs
    have := skipSpace_cons_length _ht
    omega
  · have := skipSpace_cons_length _hs
    have := skipSpace_cons_length _ht
    have := readKey_length _hk
    omega
  · have := skipSpace_eq_length _hs
    have := readScalar_length _hr
    omega

/-- Puts a finished value into the innermost open array or object, and reads on. -/
def resume (limit : Option Nat) (stack : List Frame) (value : Json) (s : List Char) :
    Except Fault Json :=
  match stack with
  | [] =>
    match skipSpace s with
    | [] => .ok value
    | rest => .error (.atNext .trailingCharacters rest)
  | .items done :: outer =>
    match _hs : skipSpace s with
    | [] => .error (.atNext .eofInList [])
    | ']' :: rest => resume limit outer (.arr (done.reverse ++ [value])) rest
    | ',' :: rest =>
      match _ht : skipSpace rest with
      | [] => .error (.atNext .eofInValue [])
      | ']' :: more => .error (.atNext .trailingComma (']' :: more))
      | item => readValue limit (.items (value :: done) :: outer) item
    | other => .error (.atNext .expectedListCommaOrEnd other)
  | .members done key :: outer =>
    match _hs : skipSpace s with
    | [] => .error (.atNext .eofInObject [])
    | '\x7d' :: rest => resume limit outer (.obj (insertMember key value done)) rest
    | ',' :: rest =>
      match _ht : skipSpace rest with
      | [] => .error (.atNext .eofInValue [])
      | '\x7d' :: more => .error (.atNext .trailingComma ('\x7d' :: more))
      | '\"' :: quoted =>
        match _hk : readKey quoted with
        | .error fault => .error fault
        | .ok (next, rest) =>
          readValue limit (.members (insertMember key value done) next :: outer) rest
      | other => .error (.atNext .keyMustBeString other)
    | other => .error (.atNext .expectedObjectCommaOrEnd other)
termination_by s.length
decreasing_by
  · exact skipSpace_cons_length _hs
  · have := skipSpace_cons_length _hs
    have := skipSpace_eq_length _ht
    omega
  · exact skipSpace_cons_length _hs
  · have := skipSpace_cons_length _hs
    have := skipSpace_cons_length _ht
    have := readKey_length _hk
    omega

end

/-- The value a text writes, or its first fault; so many open arrays and objects as the limit says
are a fault too. -/
def readWithin (limit : Option Nat) (text : String) : Except SyntaxError Json :=
  (readValue limit [] text.toList).mapError (·.inText text.toList)

theorem readWithin_eq_ok {limit : Option Nat} {text : String} {j : Json} :
    readWithin limit text = .ok j ↔ readValue limit [] text.toList = .ok j := by
  rw [readWithin]
  cases readValue limit [] text.toList with
  | ok value => exact ⟨fun h => by cases h; rfl, fun h => by cases h; rfl⟩
  | error fault => exact ⟨nofun, nofun⟩

/-- The value a text writes, or its first fault. -/
def read (text : String) : Except SyntaxError Json :=
  readWithin (some depthLimit) text

end EditorBridge.Json
