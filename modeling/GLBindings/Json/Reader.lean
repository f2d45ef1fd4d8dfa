import GLBindings.Json
import GLBindings.Text

namespace GLBindings.Json

inductive Token where
  | beginArray
  | endArray
  | beginObject
  | endObject
  | comma
  | colon
  | atom (j : Json)

namespace Token

def isSpace (c : Char) : Bool := c = ' ' || c = '\t' || c = '\n' || c = '\r'

def unit? (a b c d : Char) : Option Nat := Text.Digit.number? 16 Text.Digit.hex? [a, b, c, d]

def scalar? (n : Nat) : Option Char :=
  if 0xD800 ≤ n ∧ n < 0xE000 then none else some (Char.ofNat n)

def pair? (high low : Nat) : Option Char :=
  if 0xD800 ≤ high ∧ high < 0xDC00 ∧ 0xDC00 ≤ low ∧ low < 0xE000 then
    some (Char.ofNat (0x10000 + (high - 0xD800) * 0x400 + (low - 0xDC00)))
  else none

def unescape? : Char → Option Char
  | '"' => some '"'
  | '\\' => some '\\'
  | '/' => some '/'
  | 'b' => some '\x08'
  | 'f' => some '\x0c'
  | 'n' => some '\n'
  | 'r' => some '\r'
  | 't' => some '\t'
  | _ => none

def quoted : List Char → Option (List Char × List Char)
  | [] => none
  | '"' :: rest => some ([], rest)
  | '\\' :: 'u' :: a :: b :: c :: d :: '\\' :: 'u' :: a' :: b' :: c' :: d' :: rest =>
    match unit? a b c d >>= scalar? with
    | some x => (quoted ('\\' :: 'u' :: a' :: b' :: c' :: d' :: rest)).map fun p => (x :: p.1, p.2)
    | none => do
      let x ← pair? (← unit? a b c d) (← unit? a' b' c' d')
      let p ← quoted rest
      return (x :: p.1, p.2)
  | '\\' :: 'u' :: a :: b :: c :: d :: rest => do
    let x ← scalar? (← unit? a b c d)
    let p ← quoted rest
    return (x :: p.1, p.2)
  | '\\' :: c :: rest => do
    let x ← unescape? c
    let p ← quoted rest
    return (x :: p.1, p.2)
  | c :: rest => if c.toNat < 0x20 then none else (quoted rest).map fun p => (c :: p.1, p.2)

def isWordChar (c : Char) : Bool := c.isAlphanum || c = '-' || c = '+' || c = '.'

def isFraction : List Char → Bool
  | [] => true
  | '.' :: rest =>
    rest.head?.any Char.isDigit && isExponent (rest.dropWhile Char.isDigit)
  | rest => isExponent rest
where
  isExponent : List Char → Bool
    | [] => true
    | e :: rest =>
      let digits := match rest with
        | '+' :: r => r
        | '-' :: r => r
        | r => r
      (e = 'e' || e = 'E') && !digits.isEmpty && digits.all Char.isDigit

def isNumber (w : List Char) : Bool :=
  let unsigned := match w with
    | '-' :: rest => rest
    | _ => w
  let whole := unsigned.takeWhile Char.isDigit
  (whole = ['0'] || !whole.isEmpty && whole.head? ≠ some '0')
    && isFraction (unsigned.dropWhile Char.isDigit)

def word? (w : List Char) : Option Json :=
  if w = "null".toList then some .null
  else if w = "true".toList then some (.bool true)
  else if w = "false".toList then some (.bool false)
  else if isNumber w then some (.number (String.ofList w))
  else none

theorem length_quoted {s cs r : List Char} (h : quoted s = some (cs, r)) : r.length < s.length := by
  fun_induction quoted s generalizing cs r with
  | case1 => simp at h
  | case2 rest => simp at h; simp [h]
  | case3 a b c d a' b' c' d' rest x hx ih =>
    obtain ⟨p, hp, h⟩ := Option.map_eq_some_iff.1 h
    have := ih hp
    simp_all
    omega
  | case4 a b c d a' b' c' d' rest hx ih =>
    simp only [Option.bind_eq_bind, Option.bind_eq_some_iff] at h
    obtain ⟨_, _, _, _, _, _, p, hp, h⟩ := h
    have := ih hp
    simp_all
    omega
  | case5 a b c d rest _ ih =>
    simp only [Option.bind_eq_bind, Option.bind_eq_some_iff] at h
    obtain ⟨_, _, _, _, p, hp, h⟩ := h
    have := ih hp
    simp_all
    omega
  | case6 c rest _ _ ih =>
    simp only [Option.bind_eq_bind, Option.bind_eq_some_iff] at h
    obtain ⟨_, _, p, hp, h⟩ := h
    have := ih hp
    simp_all
    omega
  | case7 => simp at h
  | case8 c rest _ _ _ _ _ ih =>
    obtain ⟨p, hp, h⟩ := Option.map_eq_some_iff.1 h
    have := ih hp
    simp_all
    omega

def punctuation? : Char → Option Token
  | '[' => some .beginArray
  | ']' => some .endArray
  | '{' => some .beginObject
  | '}' => some .endObject
  | ',' => some .comma
  | ':' => some .colon
  | _ => none

def ofChars : List Char → Option (List Token)
  | [] => some []
  | c :: rest =>
    if isSpace c then ofChars rest
    else if c = '"' then
      match h : quoted rest with
      | some (cs, r) =>
        have := length_quoted h
        (ofChars r).map (atom (.string (String.ofList cs)) :: ·)
      | none => none
    else
      match punctuation? c with
      | some t => (ofChars rest).map (t :: ·)
      | none =>
        match word? (c :: rest.takeWhile isWordChar) with
        | some j =>
          have : (rest.dropWhile isWordChar).length ≤ rest.length :=
            (List.dropWhile_sublist _).length_le
          (ofChars (rest.dropWhile isWordChar)).map (atom j :: ·)
        | none => none
termination_by s => s.length

end Token

/-- An array or object that is still open: what it holds so far, last part first. -/
inductive Frame where
  | items (done : List Json)
  | fields (done : List (String × Json)) (key : String)

/-- What the reader waits for. -/
inductive State where
  | value (stack : List Frame)
  | firstItem (stack : List Frame)
  | firstKey (stack : List Frame)
  | key (stack : List Frame) (done : List (String × Json))
  | colon (stack : List Frame) (done : List (String × Json)) (key : String)
  /-- The value `j` is complete; a separator or an end must follow. -/
  | after (stack : List Frame) (j : Json)

namespace State

def startValue (stack : List Frame) : Token → Option State
  | .atom j => some (after stack j)
  | .beginArray => some (firstItem stack)
  | .beginObject => some (firstKey stack)
  | _ => none

def step : State → Token → Option State
  | value stack, t => startValue stack t
  | firstItem stack, .endArray => some (after stack (.array []))
  | firstItem stack, t => startValue (.items [] :: stack) t
  | firstKey stack, .endObject => some (after stack (.object []))
  | firstKey stack, .atom (.string k) => some (colon stack [] k)
  | key stack done, .atom (.string k) => some (colon stack done k)
  | colon stack done k, .colon => some (value (.fields done k :: stack))
  | after (.items done :: stack) j, .comma => some (value (.items (j :: done) :: stack))
  | after (.items done :: stack) j, .endArray => some (after stack (.array (j :: done).reverse))
  | after (.fields done k :: stack) j, .comma => some (key stack ((k, j) :: done))
  | after (.fields done k :: stack) j, .endObject =>
    some (after stack (.object ((k, j) :: done).reverse))
  | _, _ => none

end State

def ofTokens (ts : List Token) : Option Json :=
  match ts.foldlM State.step (State.value []) with
  | some (.after [] j) => some j
  | _ => none

def read? (s : String) : Option Json := Token.ofChars s.toList >>= ofTokens

end GLBindings.Json
