namespace ParkingStation.Toml

def isBlank (c : Char) : Bool := c = ' ' || c = '\t'

def isTextChar (c : Char) : Bool := c = '\t' || (0x20 ≤ c.toNat && c.toNat ≠ 0x7f)

def skipBlank (cs : List Char) : List Char := cs.dropWhile isBlank

def newline? : List Char → Option (List Char)
  | '\n' :: cs => some cs
  | '\r' :: '\n' :: cs => some cs
  | _ => none

def hexDigit? (c : Char) : Option Nat :=
  if '0' ≤ c ∧ c ≤ '9' then some (c.toNat - 48)
  else if 'a' ≤ c ∧ c ≤ 'f' then some (c.toNat - 87)
  else if 'A' ≤ c ∧ c ≤ 'F' then some (c.toNat - 55)
  else none

def hexNumber? (cs : List Char) : Option Nat :=
  (cs.mapM hexDigit?).map fun ds => ds.foldl (fun n d => n * 16 + d) 0

def codePoint (width : Nat) (cs : List Char) : Option (Char × List Char) :=
  if cs.length < width then none
  else
    match hexNumber? (cs.take width) with
    | some n => if n.isValidChar then some (Char.ofNat n, cs.drop width) else none
    | none => none

def escape : List Char → Option (Char × List Char)
  | [] => none
  | c :: cs =>
    match c with
    | 'b' => some ('\x08', cs)
    | 't' => some ('\t', cs)
    | 'n' => some ('\n', cs)
    | 'f' => some ('\x0c', cs)
    | 'r' => some ('\r', cs)
    | 'e' => some ('\x1b', cs)
    | '\x22' => some ('\x22', cs)
    | '\\' => some ('\\', cs)
    | 'x' => codePoint 2 cs
    | 'u' => codePoint 4 cs
    | 'U' => codePoint 8 cs
    | _ => none

theorem codePoint_length_le {width : Nat} {cs rest : List Char} {c : Char} (h : codePoint width cs = some (c, rest)) :
    rest.length ≤ cs.length := by
  unfold codePoint at h
  split at h
  · cases h
  · split at h
    · split at h
      · cases h
        simp
      · cases h
    · cases h

theorem escape_length_lt {cs rest : List Char} {c : Char} (h : escape cs = some (c, rest)) :
    rest.length < cs.length := by
  cases cs with
  | nil => cases h
  | cons d cs =>
    simp only [escape] at h
    split at h
    case h_9 => exact Nat.lt_succ_of_le (codePoint_length_le h)
    case h_10 => exact Nat.lt_succ_of_le (codePoint_length_le h)
    case h_11 => exact Nat.lt_succ_of_le (codePoint_length_le h)
    all_goals cases h
    all_goals simp

def withChars (cs : List Char) (r : Option (List Char × List Char)) : Option (List Char × List Char) :=
  r.map fun (text, rest) => (cs ++ text, rest)

def basic : List Char → Option (List Char × List Char)
  | [] => none
  | c :: cs =>
    if c = '\x22' then some ([], cs)
    else if c = '\\' then
      match _h : escape cs with
      | some (d, rest) => withChars [d] (basic rest)
      | none => none
    else if isTextChar c then withChars [c] (basic cs)
    else none
termination_by cs => cs.length
decreasing_by
  · have := escape_length_lt _h
    simp
    omega
  · simp

def literal : List Char → Option (List Char × List Char)
  | [] => none
  | c :: cs =>
    if c = '\x27' then some ([], cs)
    else if isTextChar c then withChars [c] (literal cs)
    else none

def closing? (quote : Char) (cs : List Char) : Option (List Char × List Char) :=
  let run := (cs.take 5).takeWhile (· = quote)
  if 3 ≤ run.length then some (run.drop 3, cs.drop run.length) else none

def skipLines : List Char → List Char
  | '\n' :: cs => skipLines cs
  | '\r' :: '\n' :: cs => skipLines cs
  | c :: cs => if isBlank c then skipLines cs else c :: cs
  | [] => []

theorem skipLines_length_le (cs : List Char) : (skipLines cs).length ≤ cs.length := by
  fun_induction skipLines cs <;> simp_all <;> omega

theorem newline?_length_lt {cs rest : List Char} (h : newline? cs = some rest) : rest.length < cs.length := by
  unfold newline? at h
  split at h <;> cases h <;> simp only [List.length_cons] <;> omega

theorem skipBlank_length_le (cs : List Char) : (skipBlank cs).length ≤ cs.length :=
  (List.dropWhile_sublist _).length_le

def continued? (cs : List Char) : Option (List Char) := (newline? (skipBlank cs)).map skipLines

theorem continued?_length_lt {cs rest : List Char} (h : continued? cs = some rest) : rest.length < cs.length := by
  unfold continued? at h
  obtain ⟨after, ha, rfl⟩ := Option.map_eq_some_iff.1 h
  have := newline?_length_lt ha
  have := skipLines_length_le after
  have := skipBlank_length_le cs
  omega

def longBasic (cs : List Char) : Option (List Char × List Char) :=
  match closing? '\x22' cs with
  | some done => some done
  | none =>
    match cs with
    | [] => none
    | '\\' :: cs =>
      match _hc : continued? cs with
      | some rest => longBasic rest
      | none =>
        match _he : escape cs with
        | some (d, rest) => withChars [d] (longBasic rest)
        | none => none
    | '\r' :: '\n' :: cs => withChars ['\r', '\n'] (longBasic cs)
    | c :: cs => if c = '\n' || isTextChar c then withChars [c] (longBasic cs) else none
termination_by cs.length
decreasing_by
  · have := continued?_length_lt _hc
    simp only [List.length_cons]
    omega
  · have := escape_length_lt _he
    simp only [List.length_cons]
    omega
  · simp only [List.length_cons]
    omega
  · simp

def longLiteral (cs : List Char) : Option (List Char × List Char) :=
  match closing? '\x27' cs with
  | some done => some done
  | none =>
    match cs with
    | [] => none
    | '\r' :: '\n' :: cs => withChars ['\r', '\n'] (longLiteral cs)
    | c :: cs => if c = '\n' || isTextChar c then withChars [c] (longLiteral cs) else none
termination_by cs.length
decreasing_by
  · simp only [List.length_cons]
    omega
  · simp

def dropNewline (cs : List Char) : List Char := (newline? cs).getD cs

def quoted (cs : List Char) : Option (String × List Char) :=
  (body cs).map fun (text, rest) => (String.ofList text, rest)
where
  body : List Char → Option (List Char × List Char)
    | '\x22' :: '\x22' :: '\x22' :: cs => longBasic (dropNewline cs)
    | '\x22' :: cs => basic cs
    | '\x27' :: '\x27' :: '\x27' :: cs => longLiteral (dropNewline cs)
    | '\x27' :: cs => literal cs
    | _ => none

def isBareChar (c : Char) : Bool := c.isAlphanum || c = '-' || c = '_'

def simpleKey (cs : List Char) : Option (String × List Char) :=
  match cs with
  | '\x22' :: cs => (basic cs).map fun (text, rest) => (String.ofList text, rest)
  | '\x27' :: cs => (literal cs).map fun (text, rest) => (String.ofList text, rest)
  | _ =>
    let name := cs.takeWhile isBareChar
    if name.isEmpty then none else some (String.ofList name, cs.dropWhile isBareChar)

structure Path where
  tables : List String
  key : String
  deriving DecidableEq

def dottedKeyFor : Nat → List Char → Option (Path × List Char)
  | 0, _ => none
  | n + 1, cs =>
    match simpleKey cs with
    | none => none
    | some (key, rest) =>
      match skipBlank rest with
      | '.' :: more =>
        (dottedKeyFor n (skipBlank more)).map fun (path, rest) => (⟨key :: path.tables, path.key⟩, rest)
      | rest => some (⟨[], key⟩, rest)

def maxDepth : Nat := 80

def dottedKey (cs : List Char) : Option (Path × List Char) :=
  (dottedKeyFor (cs.length + 1) cs).filter fun (path, _) => path.tables.length < maxDepth

end ParkingStation.Toml
