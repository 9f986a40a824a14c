/-!
# URI references

A URI reference, absolute or relative, kept as it was written.  `UriFault` says what is wrong
with a text that is none, and at which byte.

The reader takes the parts from left to right: scheme, authority, path, query and fragment.  Each
part takes the characters it may hold (`takePart`), where a percent sign must be followed by two
hexadecimal digits, and the first character that no part takes is the fault.

Main statement: the text of a `Uri` reads back as that `Uri` (`ofText_text`).
-/

namespace EditorBridge

/-- Why a text is no URI reference: the kind of fault and its byte. -/
inductive UriFault where
  | unexpectedChar (index : Nat)
  | badPercentEncoding (index : Nat)
  | badIpLiteral (index : Nat)
deriving DecidableEq, Repr

/-- The words for a fault. -/
def UriFault.message : UriFault → String
  | .unexpectedChar i => "unexpected character at index " ++ toString i
  | .badPercentEncoding i => "invalid percent-encoded octet at index " ++ toString i
  | .badIpLiteral i => "invalid IP literal at index " ++ toString i

namespace Uri

/-! ### Characters -/

/-- Whether the character is a hexadecimal digit. -/
def isHexDigit (c : Char) : Bool :=
  c.isDigit || ('a' ≤ c && c ≤ 'f') || ('A' ≤ c && c ≤ 'F')

/-- Letters, digits and the four marks that stand for themselves everywhere. -/
def isUnreserved (c : Char) : Bool :=
  c.isAlphanum || c = '-' || c = '.' || c = '_' || c = '~'

/-- The marks that a part may use as delimiters of its own. -/
def isSubDelimiter (c : Char) : Bool :=
  ['!', '$', '&', '\'', '(', ')', '*', '+', ',', ';', '='].contains c

/-- The characters of a scheme after its first letter. -/
def isSchemeChar (c : Char) : Bool :=
  c.isAlphanum || c = '+' || c = '-' || c = '.'

/-- The characters of a registered name. -/
def isNameChar (c : Char) : Bool :=
  isUnreserved c || isSubDelimiter c

/-- The characters of the part before an at sign in an authority. -/
def isUserChar (c : Char) : Bool :=
  isNameChar c || c = ':'

/-- The characters of a path segment. -/
def isSegmentChar (c : Char) : Bool :=
  isUserChar c || c = '@'

/-- The characters of a path. -/
def isPathChar (c : Char) : Bool :=
  isSegmentChar c || c = '/'

/-- The characters of a query and of a fragment. -/
def isQueryChar (c : Char) : Bool :=
  isPathChar c || c = '?'

/-! ### Parts -/

/-- A part of a text from byte `index` on, the byte after it, and the rest of the text. -/
structure Part where
  taken : List Char
  index : Nat
  rest : List Char

/-- Takes the characters that a part may hold, and percent-encoded bytes. -/
def takePart (allowed : Char → Bool) (index : Nat) : List Char → Except UriFault Part
  | [] => .ok ⟨[], index, []⟩
  | '%' :: a :: b :: rest =>
    if isHexDigit a && isHexDigit b then
      (takePart allowed (index + 3) rest).map fun p => { p with taken := '%' :: a :: b :: p.taken }
    else .error (.badPercentEncoding index)
  | '%' :: _ => .error (.badPercentEncoding index)
  | c :: rest =>
    if allowed c then
      (takePart allowed (index + 1) rest).map fun p => { p with taken := c :: p.taken }
    else .ok ⟨[], index, c :: rest⟩

/-- The pieces of a text between the places where a separator stands. -/
def splitOn (separator : Char) : List Char → List (List Char)
  | [] => [[]]
  | c :: rest =>
    if c = separator then [] :: splitOn separator rest
    else
      match splitOn separator rest with
      | [] => [[c]]
      | piece :: pieces => (c :: piece) :: pieces

/-- Whether a text is an IPv4 address: four numbers below 256 without leading zeros. -/
def isIpv4 (s : List Char) : Bool :=
  let octet (t : List Char) : Bool :=
    !t.isEmpty && t.length ≤ 3 && t.all Char.isDigit && (t.length = 1 || t.head? ≠ some '0') &&
      t.foldl (fun n c => n * 10 + (c.toNat - '0'.toNat)) 0 < 256
  let pieces := splitOn '.' s
  pieces.length = 4 && pieces.all octet

/-- How many of the eight groups of an IPv6 address the pieces between colons are; the last may
be an IPv4 address, which counts for two. -/
def ipv6Groups? : List (List Char) → Option Nat
  | [] => some 0
  | [piece] =>
    if !piece.isEmpty && piece.length ≤ 4 && piece.all isHexDigit then some 1
    else if isIpv4 piece then some 2
    else none
  | piece :: pieces =>
    if !piece.isEmpty && piece.length ≤ 4 && piece.all isHexDigit then
      (ipv6Groups? pieces).map (· + 1)
    else none

/-- The texts before and after the first double colon. -/
def splitAtDoubleColon : List Char → Option (List Char × List Char)
  | [] => none
  | ':' :: ':' :: rest => some ([], rest)
  | c :: rest => (splitAtDoubleColon rest).map fun (before, after) => (c :: before, after)

/-- Whether a text is an IPv6 address: eight groups, or fewer around one double colon. -/
def isIpv6 (s : List Char) : Bool :=
  let groups (t : List Char) : Option Nat :=
    if t.isEmpty then some 0 else ipv6Groups? (splitOn ':' t)
  match splitAtDoubleColon s with
  | none => groups s = some 8
  | some (before, after) =>
    match groups before, groups after with
    | some m, some n => !before.contains '.' && m + n ≤ 7
    | _, _ => false

/-- Takes an IP literal, after its opening bracket, which is byte `index`.  Only IPv6 addresses are
known. -/
def takeIpLiteral (index : Nat) (s : List Char) : Except UriFault (Nat × List Char) :=
  let literal := s.takeWhile (· ≠ ']')
  match s.dropWhile (· ≠ ']') with
  | ']' :: rest =>
    if isIpv6 literal then .ok (index + literal.length + 2, rest)
    else .error (.badIpLiteral index)
  | _ => .error (.badIpLiteral index)

/-- Takes the colon and the number that may follow a host. -/
def takeHostNumber (index : Nat) (s : List Char) : Nat × List Char :=
  match s with
  | ':' :: rest =>
    (index + 1 + (rest.takeWhile Char.isDigit).length, rest.dropWhile Char.isDigit)
  | _ => (index, s)

/-- Takes a host and the number after it. -/
def takeHost (index : Nat) (s : List Char) : Except UriFault (Nat × List Char) :=
  match s with
  | '[' :: rest => (takeIpLiteral index rest).map fun (i, r) => takeHostNumber i r
  | _ => (takePart isNameChar index s).map fun p => takeHostNumber p.index p.rest

/-- Checks a host and its number that were taken as one part: the number, after the only colon, is
made of digits.  Of several colons the first is the fault, and of several characters in the number
that are no digits the last. -/
def checkHostNumber (index : Nat) (part : List Char) : Except UriFault Unit :=
  let host := part.takeWhile (· ≠ ':')
  match part.dropWhile (· ≠ ':') with
  | [] => .ok ()
  | _ :: number =>
    if number.contains ':' then .error (.unexpectedChar (index + host.length))
    else if number.all Char.isDigit then .ok ()
    else
      let tail := number.reverse.takeWhile Char.isDigit
      .error (.unexpectedChar (index + part.length - tail.length - 1))

/-- Takes an authority, after its two slashes. -/
def takeAuthority (index : Nat) (s : List Char) : Except UriFault (Nat × List Char) := do
  let part ← takePart isUserChar index s
  match part.rest with
  -- What has been taken is user information.
  | '@' :: rest => takeHost (part.index + 1) rest
  | _ =>
    -- Where nothing was taken there is an IP literal or an empty host.
    if part.taken.isEmpty then takeHost index s
    else do
      checkHostNumber index part.taken
      .ok (part.index, part.rest)

/-- Takes a fragment after its number sign, which must be the rest of the text. -/
def checkFragment (index : Nat) (s : List Char) : Except UriFault Unit := do
  match s with
  | [] => .ok ()
  | '#' :: rest =>
    let part ← takePart isQueryChar (index + 1) rest
    if part.rest.isEmpty then .ok () else .error (.unexpectedChar part.index)
  | _ => .error (.unexpectedChar index)

/-- Takes a query after its question mark, if there is one, and then a fragment. -/
def checkQuery (index : Nat) (s : List Char) : Except UriFault Unit := do
  match s with
  | '?' :: rest =>
    let part ← takePart isQueryChar (index + 1) rest
    checkFragment part.index part.rest
  | _ => checkFragment index s

/-- What a path may look like, by what stands before it. -/
inductive PathRule where
  | afterAuthority
  | afterScheme
  | atStart

/-- Takes a path.  After an authority it is empty or begins with a slash; at the start of the text
its first segment has no colon. -/
def takePath (rule : PathRule) (index : Nat) (s : List Char) : Except UriFault Part :=
  match rule with
  | .afterAuthority => do
    let part ← takePart isPathChar index s
    match part.taken with
    | [] => .ok part
    | '/' :: _ => .ok part
    | _ => .error (.unexpectedChar index)
  | .afterScheme => takePart isPathChar index s
  | .atStart => do
    let first ← takePart (fun c => isSegmentChar c && c != ':') index s
    match first.rest with
    | ':' :: _ => .error (.unexpectedChar first.index)
    | rest => takePart isPathChar first.index rest

/-- Checks a path and what follows it. -/
def checkPath (rule : PathRule) (index : Nat) (s : List Char) : Except UriFault Unit := do
  let part ← takePath rule index s
  checkQuery part.index part.rest

/-- Checks what may follow a scheme, or stand without one: an authority and a path, or a path. -/
def checkHierarchy (rule : PathRule) (index : Nat) (s : List Char) : Except UriFault Unit :=
  match s with
  | '/' :: '/' :: rest => do
    let (i, r) ← takeAuthority (index + 2) rest
    checkPath .afterAuthority i r
  | _ => checkPath rule index s

/-- Checks a whole text. -/
def check (s : List Char) : Except UriFault Unit :=
  let scheme := s.takeWhile isSchemeChar
  match s.dropWhile isSchemeChar with
  | ':' :: rest =>
    match scheme with
    -- A colon at the start is left to the path, whose first segment must not have it.
    | [] => checkHierarchy .atStart 0 s
    | c :: _ =>
      if c.isAlpha then checkHierarchy .afterScheme (scheme.length + 1) rest
      else .error (.unexpectedChar 0)
  | _ => checkHierarchy .atStart 0 s

/-- Whether a text is a URI reference. -/
def isValid (text : String) : Bool :=
  match check text.toList with
  | .ok () => true
  | .error _ => false

end Uri

/-- A URI reference, as it was written. -/
structure Uri where
  text : String
  valid : Uri.isValid text = true
deriving DecidableEq

namespace Uri

/-- The URI reference with a text, or what is wrong with the text. -/
def ofText (text : String) : Except UriFault Uri :=
  match h : check text.toList with
  | .ok () => .ok ⟨text, by simp [isValid, h]⟩
  | .error fault => .error fault

/-- The text of a URI reference reads back as it. -/
theorem ofText_text (uri : Uri) : ofText uri.text = .ok uri := by
  obtain ⟨text, valid⟩ := uri
  unfold isValid at valid
  unfold ofText
  split
  · rfl
  · next fault h => simp [h] at valid

end Uri

end EditorBridge
