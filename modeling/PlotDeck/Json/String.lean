import PlotDeck.Json.Fault

/-!
# JSON strings

A string stands between double quotes; a backslash starts an escape. A string can be **read**, which
gives its text, or **passed over**, which only finds its end: then it does not matter whether
escaped surrogates are paired. Both functions start behind the opening quote.
-/

namespace PlotDeck.Json

/-- A character that may not stand in a string. -/
def isControl (c : Char) : Bool := c.toNat < 0x20

/-- The value of a hexadecimal digit. -/
def hexValue? (c : Char) : Option Nat :=
  if c.isDigit then some (c.toNat - '0'.toNat)
  else if 'a' ≤ c ∧ c ≤ 'f' then some (c.toNat - 'a'.toNat + 10)
  else if 'A' ≤ c ∧ c ≤ 'F' then some (c.toNat - 'A'.toNat + 10)
  else none

/-- Reads the four hexadecimal digits of an escape. -/
def readHex (t : List Char) : Except Fault (Nat × List Char) :=
  if Text.byteSize (t.take 4) < 4 then .error (.here .endInString [])
  else match t with
    | a :: b :: c :: d :: r =>
      match hexValue? a, hexValue? b, hexValue? c, hexValue? d with
      | some a, some b, some c, some d => .ok (((a * 16 + b) * 16 + c) * 16 + d, r)
      | _, _, _, _ => .error ⟨.invalidEscape, t, 4⟩
    | _ => .error ⟨.invalidEscape, t, 4⟩

theorem length_of_readHex {t r : List Char} {n : Nat} (h : readHex t = .ok (n, r)) :
    r.length < t.length := by
  unfold readHex at h
  split at h
  · cases h
  · split at h
    · split at h
      · cases h
        simp only [List.length_cons]
        omega
      · cases h
    · cases h

/-- The character that a one-letter escape stands for. -/
def shortEscape? : Char → Option Char
  | '"' => some '"'
  | '\\' => some '\\'
  | '/' => some '/'
  | 'b' => some '\x08'
  | 'f' => some '\x0c'
  | 'n' => some '\n'
  | 'r' => some '\r'
  | 't' => some '\t'
  | _ => none

/-- Whether a code unit is the first of a pair of surrogates. -/
def isLeading (n : Nat) : Bool := 0xD800 ≤ n && n ≤ 0xDBFF

/-- Whether a code unit is the second of a pair of surrogates. -/
def isTrailing (n : Nat) : Bool := 0xDC00 ≤ n && n ≤ 0xDFFF

/-- Reads what follows `\u`: one code unit, or the two of a pair of surrogates. -/
def readUnicode (t : List Char) : Except Fault (Char × List Char) := do
  let (n, r) ← readHex t
  if isTrailing n then throw (.here .loneSurrogate r)
  else if isLeading n then
    match r with
    | '\\' :: 'u' :: r' =>
      let (n', r'') ← readHex r'
      if isTrailing n' then
        return (Char.ofNat ((n - 0xD800) * 0x400 + (n' - 0xDC00) + 0x10000), r'')
      else throw (.here .loneSurrogate r'')
    | '\\' :: c :: r' => throw (.inByte .endOfEscape (c :: r'))
    | ['\\'] => throw (.here .endInString [])
    | c :: r' => throw (.inByte .endOfEscape (c :: r'))
    | [] => throw (.here .endInString [])
  else return (Char.ofNat n, r)

theorem length_of_readUnicode {t r : List Char} {c : Char} (h : readUnicode t = .ok (c, r)) :
    r.length < t.length := by
  unfold readUnicode at h
  cases hx : readHex t with
  | error f => simp [hx, bind, Except.bind] at h
  | ok p =>
    obtain ⟨n, r₁⟩ := p
    have h₁ := length_of_readHex hx
    simp only [hx, bind, Except.bind] at h
    split at h
    · cases h
    · split at h
      · split at h
        · rename_i r'
          cases hy : readHex r' with
          | error f => simp [hy] at h
          | ok q =>
            obtain ⟨n', r₂⟩ := q
            have h₂ := length_of_readHex hy
            simp only [hy] at h
            split at h
            · simp only [pure, Except.pure, Except.ok.injEq, Prod.mk.injEq] at h
              obtain ⟨-, rfl⟩ := h
              simp only [List.length_cons] at h₁
              omega
            · cases h
        all_goals cases h
      · simp only [pure, Except.pure, Except.ok.injEq, Prod.mk.injEq] at h
        obtain ⟨-, rfl⟩ := h
        exact h₁

/-- Reads what follows a backslash. -/
def readEscape : List Char → Except Fault (Char × List Char)
  | [] => .error (.here .endInString [])
  | 'u' :: r => readUnicode r
  | c :: r =>
    match shortEscape? c with
    | some e => .ok (e, r)
    | none => .error (.inByte .invalidEscape (c :: r))

theorem length_of_readEscape {t r : List Char} {c : Char} (h : readEscape t = .ok (c, r)) :
    r.length < t.length := by
  unfold readEscape at h
  split at h
  · cases h
  · exact Nat.lt_succ_of_lt (length_of_readUnicode h)
  · split at h
    · cases h
      exact Nat.lt_succ_self _
    · cases h

/-- Passes over what follows a backslash. -/
def passEscape : List Char → Except Fault (List Char)
  | [] => .error (.here .endInString [])
  | 'u' :: r => (readHex r).map (·.2)
  | c :: r =>
    match shortEscape? c with
    | some _ => .ok r
    | none => .error (.inByte .invalidEscape (c :: r))

theorem length_of_passEscape {t r : List Char} (h : passEscape t = .ok r) :
    r.length < t.length := by
  unfold passEscape at h
  split at h
  · cases h
  · rename_i r'
    cases hx : readHex r' with
    | error f => simp [hx, Except.map] at h
    | ok p =>
      simp only [hx, Except.map, Except.ok.injEq] at h
      subst h
      exact Nat.lt_succ_of_lt (length_of_readHex hx)
  · split at h
    · cases h
      exact Nat.lt_succ_self _
    · cases h

/-- Reads the characters of a string, and what is left after its closing quote. -/
def readChars (t : List Char) : Except Fault (List Char × List Char) :=
  match t with
  | [] => .error (.here .endInString [])
  | c :: r =>
    if c = '"' then .ok ([], r)
    else if c = '\\' then
      match _h : readEscape r with
      | .error f => .error f
      | .ok (e, after) => (readChars after).map fun (s, rest) => (e :: s, rest)
    else if isControl c then .error (.inByte .controlCharacter (c :: r))
    else (readChars r).map fun (s, rest) => (c :: s, rest)
termination_by t.length
decreasing_by
  · exact Nat.lt_succ_of_lt (length_of_readEscape _h)
  · exact Nat.lt_succ_self _

/-- Reads a string, and what is left after its closing quote. -/
def readString (t : List Char) : Except Fault (String × List Char) :=
  (readChars t).map fun (s, r) => (String.ofList s, r)

/-- Passes over a string. -/
def passString (t : List Char) : Except Fault (List Char) :=
  match t with
  | [] => .error (.here .endInString [])
  | c :: r =>
    if c = '"' then .ok r
    else if c = '\\' then
      match _h : passEscape r with
      | .error f => .error f
      | .ok after => passString after
    else if isControl c then .error (.here .controlCharacter (c :: r))
    else passString r
termination_by t.length
decreasing_by
  · exact Nat.lt_succ_of_lt (length_of_passEscape _h)
  · exact Nat.lt_succ_self _

end PlotDeck.Json
