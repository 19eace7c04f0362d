import ChainFollower.Json.Scan

/-!
Values of known types read from a JSON text. A record stands as an object, its fields in any order
and unknown ones skipped, or as a list of its fields in their order. The first problem from the left
is the one reported, whether it is one of form or of type.
-/

namespace ChainFollower.Json

/-- The greatest significand of a double that is still collected digit by digit. -/
def maxSignificand : Nat := 18446744073709551615

/-- Collects digits as long as the number stays in range; the digits left over come back. -/
def absorb : Nat → List Char → Nat × List Char
  | n, [] => (n, [])
  | n, c :: rest =>
    let next := 10 * n + (c.toNat - 48)
    if next ≤ maxSignificand then absorb next rest else (n, c :: rest)

/-- `x * 10 ^ exponent`, in steps that each round. Nothing when it exceeds all doubles. -/
def scale : Nat → Float → Int → Option Float
  | 0, x, _ => some x
  | fuel + 1, x, exponent =>
    if exponent.natAbs ≤ 308 then
      if exponent < 0 then some (x / Float.ofScientific 1 false exponent.natAbs)
      else
        let y := x * Float.ofScientific 1 false exponent.natAbs
        if y.isInf then none else some y
    else if x == 0.0 then some x
    else if exponent < 0 then scale fuel (x / 1e308) (exponent + 308)
    else none

def double (positive : Bool) (significand : Nat) (exponent : Int) : Except Problem Number :=
  match scale 4 (UInt64.ofNat significand).toFloat exponent with
  | some x => .ok (.float (if positive then x else -x))
  | none => .error .numberOutOfRange

/-- The greatest exponent that is still read as it stands. -/
def maxExponent : Nat := 2147483647

def readExponent (positive : Bool) (significand : Nat) (start : Int) : Scan Number := fun s =>
  let signed : Bool × List Char :=
    match s with
    | '+' :: rest => (true, rest)
    | '-' :: rest => (false, rest)
    | _ => (true, s)
  match signed.2 with
  | [] => .error .endInValue
  | c :: _ =>
    if Text.isDigit c then
      let power := Text.decimalValue (signed.2.takeWhile Text.isDigit)
      let rest := dropDigits signed.2
      let result :=
        if power > maxExponent then
          if significand ≠ 0 ∧ signed.1 then .error .numberOutOfRange else double positive 0 0
        else double positive significand (if signed.1 then start + power else start - power)
      result.map (fun n => (n, rest))
    else .error .invalidNumber

def readPower (positive : Bool) (significand : Nat) (exponent : Int) : Scan Number := fun s =>
  match s with
  | 'e' :: rest => readExponent positive significand exponent rest
  | 'E' :: rest => readExponent positive significand exponent rest
  | _ => (double positive significand exponent).map (fun n => (n, s))

/-- Reads the digits behind the point. Digits that do not fit any more count for nothing. -/
def readDecimals (positive : Bool) (significand : Nat) (exponent : Int) : Scan Number := fun s =>
  let digits := s.takeWhile Text.isDigit
  match digits, s with
  | [], [] => .error .endInValue
  | [], _ => .error .invalidNumber
  | _, _ =>
    let taken := absorb significand digits
    readPower positive taken.1 (exponent - (digits.length - taken.2.length : Nat)) (dropDigits s)

def wholeNumber (positive : Bool) (n : Nat) : Number :=
  if positive then .natural n
  else if 0 < n ∧ n ≤ signBit then .negative (-(n : Int))
  else .float (-(UInt64.ofNat n).toFloat)

def readUnsigned (positive : Bool) : Scan Number := fun s =>
  let digits := s.takeWhile Text.isDigit
  let rest := dropDigits s
  match digits, s with
  | [], [] => .error .endInValue
  | [], _ => .error .invalidNumber
  | '0' :: _ :: _, _ => .error .invalidNumber
  | _, _ =>
    let taken := absorb 0 digits
    let left := taken.2.length
    match rest with
    | '.' :: more => readDecimals positive taken.1 left more
    | _ =>
      if left = 0 ∧ rest.head? ≠ some 'e' ∧ rest.head? ≠ some 'E' then
        .ok (wholeNumber positive taken.1, rest)
      else readPower positive taken.1 left rest

def readNumber : Scan Number
  | '-' :: rest => readUnsigned false rest
  | s => readUnsigned true s

/-- What is wrong with a value that stands where `expected` should. -/
def mismatch (expected : String) (s : List Char) : Problem :=
  match s with
  | [] => .endInValue
  | c :: rest =>
    let unlessBroken (letters : List Char) (found : Found) : Problem :=
      match word letters rest with
      | .ok _ => .invalidType found expected
      | .error e => e
    if c = 'n' then unlessBroken ['u', 'l', 'l'] .null
    else if c = 't' then unlessBroken ['r', 'u', 'e'] (.boolean true)
    else if c = 'f' then unlessBroken ['a', 'l', 's', 'e'] (.boolean false)
    else if c = '-' ∨ Text.isDigit c then
      match readNumber s with
      | .ok (n, _) => .invalidType n.found expected
      | .error e => e
    else if c = '"' then
      match unquote rest with
      | .ok (text, _) => .invalidType (.string (String.ofList text)) expected
      | .error e => e
    else if c = '[' then .invalidType .sequence expected
    else if c = '\x7b' then .invalidType .map expected
    else .expectedValue

def readText (expected : String) : Scan String := fun s =>
  match skipSpace s with
  | '"' :: rest =>
    match unquote rest with
    | .ok (text, rest) => .ok (String.ofList text, rest)
    | .error e => .error e
  | s => .error (mismatch expected s)

def readInteger (low high : Int) (expected : String) : Scan Int := fun s =>
  let inRange (n : Int) (rest : List Char) : Except Problem (Int × List Char) :=
    if low ≤ n ∧ n ≤ high then .ok (n, rest) else .error (.invalidInteger n expected)
  match skipSpace s with
  | [] => .error .endInValue
  | c :: rest =>
    if c = '-' ∨ Text.isDigit c then
      match readNumber (c :: rest) with
      | .ok (.natural n, rest) => inRange n rest
      | .ok (.negative n, rest) => inRange n rest
      | .ok (.float x, _) => .error (.invalidType (.float x) expected)
      | .error e => .error e
    else .error (mismatch expected (c :: rest))

/-- A field of a record, which is collected in a `σ`. -/
structure Field (σ : Type) where
  name : String
  given : σ → Bool
  read : σ → Scan σ

/-- A record type: how it is called in messages, its fields, and what becomes of a collection.
`short` tells what happens when a list ends before the field of that position. -/
structure Shape (σ α : Type) where
  title : String
  start : σ
  fields : List (Field σ)
  short : Option (Nat → Problem)
  finish : σ → Except Problem α

variable {σ α : Type}

/-- Where the next key of an object or element of a list begins, or nothing when the closing
bracket stands there; `first` if none came before. -/
def nextItem (bracket : Bracket) (first : Bool) (s : List Char) :
    Except Problem (Option (List Char)) :=
  match skipSpace s with
  | [] => .error bracket.endProblem
  | c :: rest =>
    if c = bracket.closing then .ok none
    else
      let item : Except Problem (List Char) :=
        if first then .ok (c :: rest)
        else if c = ',' then .ok (skipSpace rest)
        else .error bracket.commaProblem
      match item with
      | .error e => .error e
      | .ok [] => .error .endInValue
      | .ok (c :: rest) =>
        if c = bracket.closing then .error .trailingComma else .ok (some (c :: rest))

def closeRecord (bracket : Bracket) (s : List Char) : Except Problem (List Char) :=
  match skipSpace s with
  | [] => .error bracket.endProblem
  | c :: rest =>
    if c = bracket.closing then .ok rest
    else if c = ',' then
      match bracket, skipSpace rest with
      | .object, _ => .error .trailingComma
      | .list, ']' :: _ => .error .trailingComma
      | .list, _ => .error .trailingCharacters
    else .error .trailingCharacters

/-- Reads the members of an object up to its closing brace; every member takes a character, so that
`fuel` of the length is enough. -/
def readMembers (shape : Shape σ α) : Nat → Bool → σ → Scan σ
  | 0, _, _, _ => .error .endInObject
  | fuel + 1, first, collected, s =>
    match nextItem .object first s with
    | .error e => .error e
    | .ok none => .ok (collected, s)
    | .ok (some ('"' :: rest)) =>
      match unquote rest with
      | .error e => .error e
      | .ok (key, rest) =>
        match shape.fields.find? (fun field => field.name.toList == key) with
        | some field =>
          if field.given collected then .error (.duplicateField field.name)
          else
            match behindColon rest with
            | .error e => .error e
            | .ok rest =>
              match field.read collected rest with
              | .error e => .error e
              | .ok (collected, rest) => readMembers shape fuel false collected rest
        | none =>
          match behindColon rest with
          | .error e => .error e
          | .ok rest =>
            match skipValue rest with
            | .error e => .error e
            | .ok rest => readMembers shape fuel false collected rest
    | .ok (some _) => .error .keyNotString

/-- Reads the elements of a list, one for each field; a list that ends early leaves the other fields
as they are, if that is allowed. -/
def readElements (shape : Shape σ α) : List (Field σ) → Nat → σ → Scan σ
  | [], _, collected, s => .ok (collected, s)
  | field :: fields, index, collected, s =>
    match nextItem .list (index == 0) s with
    | .error e => .error e
    | .ok (some rest) =>
      match field.read collected rest with
      | .error e => .error e
      | .ok (collected, rest) => readElements shape fields (index + 1) collected rest
    | .ok none =>
      match shape.short with
      | some problem => .error (problem index)
      | none => .ok (collected, s)

def readRecord (shape : Shape σ α) : Scan α := fun s =>
  let finished (bracket : Bracket) (result : Except Problem (σ × List Char)) :
      Except Problem (α × List Char) :=
    match result with
    | .error e => .error e
    | .ok (collected, rest) =>
      match shape.finish collected with
      | .error e => .error e
      | .ok value =>
        match closeRecord bracket rest with
        | .error e => .error e
        | .ok rest => .ok (value, rest)
  match skipSpace s with
  | '[' :: rest => finished .list (readElements shape shape.fields 0 shape.start rest)
  | '\x7b' :: rest => finished .object (readMembers shape rest.length true shape.start rest)
  | s => .error (mismatch shape.title s)

def readWhole (read : Scan α) (text : String) : Except Problem α :=
  match read text.toList with
  | .error e => .error e
  | .ok (value, rest) =>
    match skipSpace rest with
    | [] => .ok value
    | _ => .error .trailingCharacters

end ChainFollower.Json
