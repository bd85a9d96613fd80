import Mathlib.Data.Nat.Digits.Lemmas
import Mathlib.Data.List.Sort
import Mathlib.Data.String.Basic

/-! # The text of JSON values, with sorted keys and no spaces -/

namespace JsonText

/-- A JSON value. A number with a fraction or an exponent is what reading it gives back as text. -/
inductive Value
  | null
  | bool (b : Bool)
  | int (n : ℤ)
  | float (text : List Char)
  | str (s : String)
  | list (xs : List Value)
  | dict (entries : List (String × Value))

def Value.get (v : Value) (key : String) : Option Value :=
  match v with
  | .dict entries => entries.lookup key
  | _ => none

section text

def escape (c : Char) : List Char :=
  if c = '"' then ['\\', '"']
  else if c = '\\' then ['\\', '\\']
  else if c = '\n' then ['\\', 'n']
  else if c = '\r' then ['\\', 'r']
  else if c = '\t' then ['\\', 't']
  else if c = Char.ofNat 12 then ['\\', 'f']
  else if c = Char.ofNat 8 then ['\\', 'b']
  else if c.toNat < 32 then
    ['\\', 'u', '0', '0', Nat.digitChar (c.toNat / 16), Nat.digitChar (c.toNat % 16)]
  else [c]

def stringText (s : String) : List Char := '"' :: (s.toList.flatMap escape ++ ['"'])

def natText (n : ℕ) : List Char :=
  if n = 0 then ['0'] else (Nat.digits 10 n).reverse.map Nat.digitChar

def intText (n : ℤ) : List Char :=
  if n < 0 then '-' :: natText n.natAbs else natText n.natAbs

mutual

def text : Value → List Char
  | .null => "null".toList
  | .bool true => "true".toList
  | .bool false => "false".toList
  | .int n => intText n
  | .float t => t
  | .str s => stringText s
  | .list [] => "[]".toList
  | .list (x :: xs) => '[' :: (text x ++ textElements xs)
  | .dict [] => "{}".toList
  | .dict ((key, v) :: entries) =>
    '{' :: (stringText key ++ ':' :: (text v ++ textEntries entries))

def textElements : List Value → List Char
  | [] => [']']
  | x :: xs => ',' :: (text x ++ textElements xs)

def textEntries : List (String × Value) → List Char
  | [] => ['}']
  | (key, v) :: entries => ',' :: (stringText key ++ ':' :: (text v ++ textEntries entries))

end

def ByKey (a b : String × Value) : Prop := a.1 ≤ b.1

instance (a b : String × Value) : Decidable (ByKey a b) := inferInstanceAs (Decidable (a.1 ≤ b.1))

instance : Std.Total ByKey := ⟨fun a b ↦ le_total a.1 b.1⟩

instance : IsTrans (String × Value) ByKey := ⟨fun _ _ _ h h' ↦ le_trans h h'⟩

mutual

def sortKeys : Value → Value
  | .list xs => .list (sortElements xs)
  | .dict entries => .dict ((sortEntries entries).insertionSort ByKey)
  | .null => .null
  | .bool b => .bool b
  | .int n => .int n
  | .float t => .float t
  | .str s => .str s

def sortElements : List Value → List Value
  | [] => []
  | x :: xs => sortKeys x :: sortElements xs

def sortEntries : List (String × Value) → List (String × Value)
  | [] => []
  | (key, v) :: entries => (key, sortKeys v) :: sortEntries entries

end

/-- `json.dumps` with sorted keys and the shortest separators. -/
def dumps (v : Value) : List Char := text (sortKeys v)

end text

section reading

abbrev Repr := List Char → List Char

def isSpace (c : Char) : Bool := c = ' ' || c = '\t' || c = '\n' || c = '\r'

def skip (l : List Char) : List Char := l.dropWhile isSpace

def digitOf? (c : Char) : Option ℕ :=
  if '0' ≤ c ∧ c ≤ '9' then some (c.toNat - '0'.toNat) else none

def isDigit (c : Char) : Bool := (digitOf? c).isSome

def natOf (l : List Char) : ℕ := l.foldl (fun n c ↦ 10 * n + (digitOf? c).getD 0) 0

def hexOf? (c : Char) : Option ℕ :=
  if '0' ≤ c ∧ c ≤ '9' then some (c.toNat - '0'.toNat)
  else if 'a' ≤ c ∧ c ≤ 'f' then some (c.toNat - 'a'.toNat + 10)
  else if 'A' ≤ c ∧ c ≤ 'F' then some (c.toNat - 'A'.toNat + 10)
  else none

def codeUnit? (a b c d : Char) : Option ℕ := do
  let a ← hexOf? a
  let b ← hexOf? b
  let c ← hexOf? c
  let d ← hexOf? d
  return ((a * 16 + b) * 16 + c) * 16 + d

/-- The rest of a string after its opening quote. A half of a surrogate pair that stands alone is
refused. -/
def readString : List Char → Option (List Char × List Char)
  | '"' :: l => some ([], l)
  | '\\' :: '"' :: l => (readString l).map fun r ↦ ('"' :: r.1, r.2)
  | '\\' :: '\\' :: l => (readString l).map fun r ↦ ('\\' :: r.1, r.2)
  | '\\' :: '/' :: l => (readString l).map fun r ↦ ('/' :: r.1, r.2)
  | '\\' :: 'n' :: l => (readString l).map fun r ↦ ('\n' :: r.1, r.2)
  | '\\' :: 'r' :: l => (readString l).map fun r ↦ ('\r' :: r.1, r.2)
  | '\\' :: 't' :: l => (readString l).map fun r ↦ ('\t' :: r.1, r.2)
  | '\\' :: 'f' :: l => (readString l).map fun r ↦ (Char.ofNat 12 :: r.1, r.2)
  | '\\' :: 'b' :: l => (readString l).map fun r ↦ (Char.ofNat 8 :: r.1, r.2)
  | '\\' :: 'u' :: a :: b :: c :: d :: l =>
    match codeUnit? a b c d with
    | none => none
    | some n =>
      if n < 0xD800 ∨ 0xE000 ≤ n then (readString l).map fun r ↦ (Char.ofNat n :: r.1, r.2)
      else if 0xDC00 ≤ n then none
      else match l with
        | '\\' :: 'u' :: a :: b :: c :: d :: l =>
          match codeUnit? a b c d with
          | none => none
          | some m =>
            if 0xDC00 ≤ m ∧ m < 0xE000 then (readString l).map fun r ↦
              (Char.ofNat (0x10000 + (n - 0xD800) * 0x400 + (m - 0xDC00)) :: r.1, r.2)
            else none
        | _ => none
  | '\\' :: _ => none
  | c :: l => if c.toNat < 32 then none else (readString l).map fun r ↦ (c :: r.1, r.2)
  | [] => none

/-- The digits before a fraction: a zero, or digits that do not begin with one. -/
def readNat : List Char → Option (List Char × List Char)
  | '0' :: l => some (['0'], l)
  | l => if (l.takeWhile isDigit).isEmpty then none
    else some (l.takeWhile isDigit, l.dropWhile isDigit)

def readFraction : List Char → List Char × List Char
  | '.' :: l => if (l.takeWhile isDigit).isEmpty then ([], '.' :: l)
    else ('.' :: l.takeWhile isDigit, l.dropWhile isDigit)
  | l => ([], l)

def readSign : List Char → List Char × List Char
  | '+' :: l => (['+'], l)
  | '-' :: l => (['-'], l)
  | l => ([], l)

def readExponent : List Char → List Char × List Char
  | [] => ([], [])
  | c :: l =>
    let (sign, digits) := readSign l
    if (c = 'e' ∨ c = 'E') ∧ !(digits.takeWhile isDigit).isEmpty then
      (c :: sign ++ digits.takeWhile isDigit, digits.dropWhile isDigit)
    else ([], c :: l)

def maxDigits : ℕ := 4300

def readMagnitude (repr : Repr) (sign : List Char) (l : List Char) : Option (Value × List Char) :=
  match readNat l with
  | none => none
  | some (digits, l) =>
    let (fraction, l) := readFraction l
    let (exponent, l) := readExponent l
    if fraction.isEmpty && exponent.isEmpty then
      if maxDigits < digits.length then none
      else some (.int (if sign.isEmpty then natOf digits else -natOf digits), l)
    else some (.float (repr (sign ++ digits ++ fraction ++ exponent)), l)

def readWord : List Char → List Char → Option (List Char)
  | [], l => some l
  | _ :: _, [] => none
  | c :: word, d :: l => if c = d then readWord word l else none

def words : List (List Char × Value) :=
  [("null".toList, .null), ("true".toList, .bool true), ("false".toList, .bool false),
    ("NaN".toList, .float "NaN".toList), ("Infinity".toList, .float "Infinity".toList),
    ("-Infinity".toList, .float "-Infinity".toList)]

def readScalar (repr : Repr) (l : List Char) : Option (Value × List Char) :=
  match words.findSome? fun word ↦ (readWord word.1 l).map fun rest ↦ (word.2, rest) with
  | some r => some r
  | none =>
    match l with
    | '-' :: l => readMagnitude repr ['-'] l
    | l => readMagnitude repr [] l

def ofPairs : List (String × Value) → List (String × Value)
  | [] => []
  | (key, v) :: pairs =>
    let entries := ofPairs pairs
    if key ∈ entries.map Prod.fst then entries else (key, v) :: entries

mutual

/-- A value at the beginning of the text. -/
def readValue (repr : Repr) : ℕ → List Char → Option (Value × List Char)
  | 0, _ => none
  | fuel + 1, l =>
    match l with
    | '"' :: l => (readString l).map fun r ↦ (.str (String.ofList r.1), r.2)
    | '[' :: l =>
      match skip l with
      | ']' :: l => some (.list [], l)
      | l => (readElements repr fuel l).map fun r ↦ (.list r.1, r.2)
    | '{' :: l =>
      match skip l with
      | '}' :: l => some (.dict [], l)
      | l => (readEntries repr fuel l).map fun r ↦ (.dict (ofPairs r.1), r.2)
    | l => readScalar repr l

def readElements (repr : Repr) : ℕ → List Char → Option (List Value × List Char)
  | 0, _ => none
  | fuel + 1, l =>
    match readValue repr fuel l with
    | none => none
    | some (x, l) =>
      match skip l with
      | ']' :: l => some ([x], l)
      | ',' :: l => (readElements repr fuel (skip l)).map fun r ↦ (x :: r.1, r.2)
      | _ => none

/-- The entries of an object, to its end. -/
def readEntries (repr : Repr) : ℕ → List Char → Option (List (String × Value) × List Char)
  | 0, _ => none
  | fuel + 1, l =>
    match l with
    | '"' :: l =>
      match readString l with
      | none => none
      | some (key, l) =>
        match skip l with
        | ':' :: l =>
          match readValue repr fuel (skip l) with
          | none => none
          | some (v, l) =>
            match skip l with
            | '}' :: l => some ([(String.ofList key, v)], l)
            | ',' :: l => (readEntries repr fuel (skip l)).map fun r ↦
                ((String.ofList key, v) :: r.1, r.2)
            | _ => none
        | _ => none
    | _ => none

end

def loads (repr : Repr) (l : List Char) : Option Value :=
  match readValue repr (l.length + 1) (skip l) with
  | none => none
  | some (v, rest) => if skip rest = [] then some v else none

end reading

end JsonText
