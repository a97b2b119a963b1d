import PicoDualCore.PyValue
set_option autoImplicit false

/-!
The `json` module of the target: `dumps` leaves non-ASCII characters as they are and escapes the
control characters; `loads` accepts JSON with any white space.
-/

namespace PicoDualCore
namespace Json

def hexDigit (n : Nat) : Char := if n < 10 then Char.ofNat (48 + n) else Char.ofNat (87 + n)

def quoteChar (c : Char) : List Char :=
  if c = '"' then ['\\', '"']
  else if c = '\\' then ['\\', '\\']
  else if 32 ≤ c.toNat then [c]
  else if c = '\n' then ['\\', 'n']
  else if c = '\r' then ['\\', 'r']
  else if c = '\t' then ['\\', 't']
  else ['\\', 'u', '0', '0', hexDigit (c.toNat / 16), hexDigit (c.toNat % 16)]

def quote (s : String) : List Char := '"' :: s.toList.flatMap quoteChar ++ ['"']

def digitChar (n : Nat) : Char := Char.ofNat (48 + n)

def digitsUpTo : Nat → Nat → List Char → List Char
  | 0, _, tail => tail
  | fuel + 1, n, tail =>
    if n < 10 then digitChar n :: tail
    else digitsUpTo fuel (n / 10) (digitChar (n % 10) :: tail)

def natText (n : Nat) : List Char := digitsUpTo (n + 1) n []

def intText (n : Int) : List Char :=
  if n < 0 then '-' :: natText n.natAbs else natText n.natAbs

def FLOAT_PRECISION : Int := 7

def stripZeros : Nat → Nat → Nat × Nat
  | 0, m => (m, 0)
  | fuel + 1, m =>
    if m = 0 || m % 10 != 0 then (m, 0)
    else ((stripZeros fuel (m / 10)).1, (stripZeros fuel (m / 10)).2 + 1)

/-- `%g`, with a fraction wherever it would read as an integer: the digits before and after the
point, and the exponent. -/
def placePoint (digits : List Char) (exponent : Int) : List Char × List Char × Option Int :=
  let point : Int := digits.length + exponent
  if point ≤ -4 || FLOAT_PRECISION < point then (digits.take 1, digits.drop 1, some (point - 1))
  else if point ≤ 0 then (['0'], List.replicate (-point).toNat '0' ++ digits, none)
  else if 0 ≤ exponent then (digits ++ List.replicate exponent.toNat '0', ['0'], none)
  else (digits.take point.toNat, digits.drop point.toNat, none)

def decimalShape (d : Decimal) : List Char × List Char × Option Int :=
  let stripped := stripZeros d.mantissa.natAbs d.mantissa.natAbs
  placePoint (natText stripped.1) (if stripped.1 = 0 then 0 else d.exponent + stripped.2)

def fractionText (fraction : List Char) : List Char :=
  if fraction.isEmpty then [] else '.' :: fraction

def exponentText : Option Int → List Char
  | none => []
  | some e => 'e' :: (if e < 0 then '-' else '+') ::
      ((if e.natAbs < 10 then ['0'] else []) ++ natText e.natAbs)

def unsignedText (shape : List Char × List Char × Option Int) : List Char :=
  shape.1 ++ fractionText shape.2.1 ++ exponentText shape.2.2

def decimalText (d : Decimal) : List Char :=
  if d.mantissa < 0 then '-' :: unsignedText (decimalShape d) else unsignedText (decimalShape d)

def floatText : PyFloat → List Char
  | .finite d => decimalText d
  | .posInf => ['i', 'n', 'f']
  | .negInf => ['-', 'i', 'n', 'f']
  | .nan => ['n', 'a', 'n']

mutual

/-- An object of another type is written as a string; validated values hold none. -/
def dumps : PyValue → List Char
  | .none => ['n', 'u', 'l', 'l']
  | .bool b => if b then ['t', 'r', 'u', 'e'] else ['f', 'a', 'l', 's', 'e']
  | .int n => intText n
  | .float f => floatText f
  | .str s => quote s
  | .list items => '[' :: dumpItems items ++ [']']
  | .tuple items => '[' :: dumpItems items ++ [']']
  | .dict items => '{' :: dumpPairs items ++ ['}']
  | .other t => quote t

def dumpItems : List PyValue → List Char
  | [] => []
  | item :: rest => dumps item ++ dumpMoreItems rest

def dumpMoreItems : List PyValue → List Char
  | [] => []
  | item :: rest => ',' :: ' ' :: dumps item ++ dumpMoreItems rest

def dumpPairs : List (PyKey × PyValue) → List Char
  | [] => []
  | (key, value) :: rest => quote key.text ++ ':' :: ' ' :: dumps value ++ dumpMorePairs rest

def dumpMorePairs : List (PyKey × PyValue) → List Char
  | [] => []
  | (key, value) :: rest =>
    ',' :: ' ' :: quote key.text ++ ':' :: ' ' :: dumps value ++ dumpMorePairs rest

end

def isSpace (c : Char) : Bool := c == ' ' || c == '\t' || c == '\n' || c == '\r'

def skipSpace : List Char → List Char
  | [] => []
  | c :: rest => if isSpace c then skipSpace rest else c :: rest

def hexValue (c : Char) : Option Nat :=
  let n := c.toNat
  if 48 ≤ n && n ≤ 57 then some (n - 48)
  else if 97 ≤ n && n ≤ 102 then some (n - 87)
  else if 65 ≤ n && n ≤ 70 then some (n - 55)
  else none

def unescape (c : Char) : Option Char :=
  if c = '"' || c = '\\' || c = '/' then some c
  else if c = 'b' then some (Char.ofNat 8)
  else if c = 'f' then some (Char.ofNat 12)
  else if c = 'n' then some '\n'
  else if c = 'r' then some '\r'
  else if c = 't' then some '\t'
  else none

def parseString : List Char → Option (List Char × List Char)
  | [] => none
  | '"' :: rest => some ([], rest)
  | '\\' :: 'u' :: a :: b :: c :: d :: rest =>
    match hexValue a, hexValue b, hexValue c, hexValue d with
    | some a, some b, some c, some d =>
      (parseString rest).map
        (fun p => (Char.ofNat (((a * 16 + b) * 16 + c) * 16 + d) :: p.1, p.2))
    | _, _, _, _ => none
  | '\\' :: c :: rest =>
    match unescape c with
    | some c => (parseString rest).map (fun p => (c :: p.1, p.2))
    | none => none
  | c :: rest => (parseString rest).map (fun p => (c :: p.1, p.2))

def isDigit (c : Char) : Bool := 48 ≤ c.toNat && c.toNat ≤ 57

def isNumberChar (c : Char) : Bool :=
  isDigit c || c == '-' || c == '+' || c == '.' || c == 'e' || c == 'E'

def digitsValue (digits : List Char) : Nat :=
  digits.foldl (fun n c => 10 * n + (c.toNat - 48)) 0

def exponentValue : List Char → Option Int
  | '-' :: digits =>
    if !digits.isEmpty && digits.all isDigit then some (-(digitsValue digits : Int)) else none
  | '+' :: digits =>
    if !digits.isEmpty && digits.all isDigit then some (digitsValue digits) else none
  | digits =>
    if !digits.isEmpty && digits.all isDigit then some (digitsValue digits) else none

def signed (negative : Bool) (n : Nat) : Int := if negative then -n else n

def parseFraction (negative : Bool) (whole : List Char) : List Char → Option PyValue
  | [] => some (.int (signed negative (digitsValue whole)))
  | '.' :: rest =>
    let fraction := rest.takeWhile isDigit
    let mantissa := signed negative (digitsValue (whole ++ fraction))
    match rest.dropWhile isDigit with
    | [] => some (.float (.finite ⟨mantissa, -(fraction.length : Int)⟩))
    | c :: rest =>
      if c = 'e' || c = 'E' then
        (exponentValue rest).map (fun e => .float (.finite ⟨mantissa, e - fraction.length⟩))
      else none
  | c :: rest =>
    if c = 'e' || c = 'E' then
      (exponentValue rest).map
        (fun e => .float (.finite ⟨signed negative (digitsValue whole), e⟩))
    else none

def parseUnsigned (negative : Bool) (token : List Char) : Option PyValue :=
  let whole := token.takeWhile isDigit
  if whole.isEmpty then none else parseFraction negative whole (token.dropWhile isDigit)

def parseNumber : List Char → Option PyValue
  | '-' :: token => parseUnsigned true token
  | token => parseUnsigned false token

/-- `d[key] = value`: a key that is there keeps its place. -/
def store (d : PyDict) (key : String) (value : PyValue) : PyDict :=
  match d with
  | [] => [(.str key, value)]
  | (k, v) :: rest => if k = .str key then (k, value) :: rest else (k, v) :: store rest key value

def parseWord (word : List Char) (value : PyValue) (rest : List Char) :
    Option (PyValue × List Char) :=
  if word.isPrefixOf rest then some (value, rest.drop word.length) else none

mutual

def parseValue : Nat → List Char → Option (PyValue × List Char)
  | 0, _ => none
  | fuel + 1, text =>
    match skipSpace text with
    | [] => none
    | c :: rest =>
      if c = '"' then (parseString rest).map (fun p => (.str (String.ofList p.1), p.2))
      else if c = '[' then
        match skipSpace rest with
        | ']' :: rest => some (.list [], rest)
        | rest => (parseItems fuel rest).map (fun p => (.list p.1, p.2))
      else if c = '{' then
        match skipSpace rest with
        | '}' :: rest => some (.dict [], rest)
        | rest => (parsePairs fuel [] rest).map (fun p => (.dict p.1, p.2))
      else if c = 'n' then parseWord ['u', 'l', 'l'] .none rest
      else if c = 't' then parseWord ['r', 'u', 'e'] (.bool true) rest
      else if c = 'f' then parseWord ['a', 'l', 's', 'e'] (.bool false) rest
      else
        (parseNumber ((c :: rest).takeWhile isNumberChar)).map
          (fun v => (v, (c :: rest).dropWhile isNumberChar))

def parseItems : Nat → List Char → Option (List PyValue × List Char)
  | 0, _ => none
  | fuel + 1, text =>
    match parseValue fuel text with
    | none => none
    | some (item, rest) =>
      match skipSpace rest with
      | ',' :: rest => (parseItems fuel rest).map (fun p => (item :: p.1, p.2))
      | ']' :: rest => some ([item], rest)
      | _ => none

def parsePairs : Nat → PyDict → List Char → Option (PyDict × List Char)
  | 0, _, _ => none
  | fuel + 1, members, text =>
    match skipSpace text with
    | '"' :: rest =>
      match parseString rest with
      | none => none
      | some (key, rest) =>
        match skipSpace rest with
        | ':' :: rest =>
          match parseValue fuel rest with
          | none => none
          | some (value, rest) =>
            let members := store members (String.ofList key) value
            match skipSpace rest with
            | ',' :: rest => parsePairs fuel members rest
            | '}' :: rest => some (members, rest)
            | _ => none
        | _ => none
    | _ => none

end

def loads (text : List Char) : Except String PyValue :=
  match parseValue (2 * text.length + 1) text with
  | some (value, rest) => if (skipSpace rest).isEmpty then .ok value else .error "syntax error in JSON"
  | none => .error "syntax error in JSON"

end Json
end PicoDualCore
