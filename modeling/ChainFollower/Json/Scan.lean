import ChainFollower.Json.Problem

/-!
The tokens of a JSON text. Readers get the text from where they stand and give back what follows.
A value that nobody asked for is skipped with its brackets on a stack, so that nesting has no
limit; it is checked for form, but its escapes need not name characters and its numbers need not be
representable.
-/

namespace ChainFollower.Json

abbrev Scan (α : Type) := List Char → Except Problem (α × List Char)

def isSpace (c : Char) : Bool :=
  c == ' ' || c == '\n' || c == '\t' || c == '\r'

def skipSpace (s : List Char) : List Char :=
  s.dropWhile isSpace

/-- The rest behind the letters of a word such as `null`, whose first letter is taken already. -/
def word : List Char → List Char → Except Problem (List Char)
  | [], s => .ok s
  | _ :: _, [] => .error .endInValue
  | w :: ws, c :: rest => if c = w then word ws rest else .error .expectedWord

def byteCount (s : List Char) : Nat :=
  s.foldr (fun c n => c.utf8Size + n) 0

/-- What is wrong with a `\u` escape that four hexadecimal digits do not follow. -/
def badUnit (s : List Char) : Problem :=
  if byteCount (s.take 4) < 4 then .endInString else .invalidEscape

def unit? (a b c d : Char) : Option Nat :=
  match Text.hexValue? a, Text.hexValue? b, Text.hexValue? c, Text.hexValue? d with
  | some a, some b, some c, some d => some (4096 * a + 256 * b + 16 * c + d)
  | _, _, _, _ => none

/-- The character that stands behind a backslash for another one. -/
def shortEscape? (c : Char) : Option Char :=
  if c = '"' ∨ c = '\\' ∨ c = '/' then some c
  else if c = 'b' then some '\x08'
  else if c = 'f' then some '\x0c'
  else if c = 'n' then some '\n'
  else if c = 'r' then some '\r'
  else if c = 't' then some '\t'
  else none

def prepend (c : Char) :
    Except Problem (List Char × List Char) → Except Problem (List Char × List Char)
  | .ok (text, rest) => .ok (c :: text, rest)
  | .error e => .error e

/-- Reads a string behind its opening quote. Two units of a surrogate pair make one character. -/
def unquote : Scan (List Char)
  | [] => .error .endInString
  | c :: rest =>
    if c = '"' then .ok ([], rest)
    else if c = '\\' then
      match rest with
      | [] => .error .endInString
      | 'u' :: a1 :: a2 :: a3 :: a4 :: more =>
        match unit? a1 a2 a3 a4 with
        | none => .error .invalidEscape
        | some high =>
          if 0xdc00 ≤ high ∧ high ≤ 0xdfff then .error .loneSurrogate
          else if high < 0xd800 ∨ 0xdbff < high then prepend (Char.ofNat high) (unquote more)
          else
            match more with
            | [] => .error .endInString
            | ['\\'] => .error .endInString
            | '\\' :: 'u' :: b1 :: b2 :: b3 :: b4 :: tail =>
              match unit? b1 b2 b3 b4 with
              | none => .error .invalidEscape
              | some low =>
                if 0xdc00 ≤ low ∧ low ≤ 0xdfff then
                  prepend (Char.ofNat (0x10000 + (high - 0xd800) * 1024 + (low - 0xdc00)))
                    (unquote tail)
                else .error .loneSurrogate
            | '\\' :: 'u' :: few => .error (badUnit few)
            | _ => .error .endOfEscape
      | 'u' :: few => .error (badUnit few)
      | e :: more =>
        match shortEscape? e with
        | some x => prepend x (unquote more)
        | none => .error .invalidEscape
    else if c.toNat < 0x20 then .error .controlCharacter
    else prepend c (unquote rest)

def skipString : List Char → Except Problem (List Char)
  | [] => .error .endInString
  | c :: rest =>
    if c = '"' then .ok rest
    else if c = '\\' then
      match rest with
      | [] => .error .endInString
      | 'u' :: a :: b :: c :: d :: more =>
        match unit? a b c d with
        | none => .error .invalidEscape
        | some _ => skipString more
      | 'u' :: few => .error (badUnit few)
      | e :: more =>
        match shortEscape? e with
        | some _ => skipString more
        | none => .error .invalidEscape
    else if c.toNat < 0x20 then .error .controlCharacter
    else skipString rest

def dropDigits (s : List Char) : List Char :=
  s.dropWhile Text.isDigit

def skipExponent (s : List Char) : Except Problem (List Char) :=
  let unsigned :=
    match s with
    | '+' :: rest => rest
    | '-' :: rest => rest
    | _ => s
  match unsigned with
  | c :: rest => if Text.isDigit c then .ok (dropDigits rest) else .error .invalidNumber
  | [] => .error .invalidNumber

/-- Skips what may follow the whole part of a number. -/
def skipFraction (s : List Char) : Except Problem (List Char) :=
  match s with
  | '.' :: c :: rest =>
    if Text.isDigit c then
      match dropDigits rest with
      | 'e' :: more => skipExponent more
      | 'E' :: more => skipExponent more
      | more => .ok more
    else .error .invalidNumber
  | ['.'] => .error .invalidNumber
  | 'e' :: more => skipExponent more
  | 'E' :: more => skipExponent more
  | _ => .ok s

def skipNumber (s : List Char) : Except Problem (List Char) :=
  match s with
  | [] => .error .invalidNumber
  | c :: rest =>
    if c = '0' then
      match rest with
      | d :: _ => if Text.isDigit d then .error .invalidNumber else skipFraction rest
      | [] => .ok []
    else if Text.isDigit c then skipFraction (dropDigits rest)
    else .error .invalidNumber

inductive Bracket where
  | list
  | object
  deriving DecidableEq, Repr

namespace Bracket

def endProblem : Bracket → Problem
  | list => .endInList
  | object => .endInObject

def commaProblem : Bracket → Problem
  | list => .expectedCommaOrBracket
  | object => .expectedCommaOrBrace

def closing : Bracket → Char
  | list => ']'
  | object => '\x7d'

end Bracket

def behindColon (s : List Char) : Except Problem (List Char) :=
  match skipSpace s with
  | ':' :: rest => .ok rest
  | [] => .error .endInObject
  | _ => .error .expectedColon

/-- Skips a key with its colon, if the bracket is that of an object. -/
def skipKey (bracket : Bracket) (s : List Char) : Except Problem (List Char) :=
  match bracket with
  | .list => .ok s
  | .object =>
    match skipSpace s with
    | '"' :: rest =>
      match skipString rest with
      | .ok rest => behindColon rest
      | .error e => .error e
    | [] => .error .endInObject
    | _ => .error .keyNotString

/-- Where a skip stands: before a value, or inside the innermost bracket, at its start or behind
one of its values. -/
inductive Place where
  | value
  | opened
  | behindValue
  deriving DecidableEq, Repr

/-- A value that opens no bracket. -/
def skipScalar (s : List Char) : Except Problem (List Char) :=
  match s with
  | [] => .error .endInValue
  | c :: rest =>
    if c = 'n' then word ['u', 'l', 'l'] rest
    else if c = 't' then word ['r', 'u', 'e'] rest
    else if c = 'f' then word ['a', 'l', 's', 'e'] rest
    else if c = '-' then skipNumber rest
    else if Text.isDigit c then skipNumber s
    else if c = '"' then skipString rest
    else .error .expectedValue

/-- Skips to the end of a value. Every second step takes a character, so that `fuel` of twice the
length is enough. -/
def skipAt : Nat → Place → List Bracket → List Char → Except Problem (List Char)
  | 0, _, _, _ => .error .endInValue
  | fuel + 1, place, stack, s =>
    let behind (stack : List Bracket) (rest : List Char) : Except Problem (List Char) :=
      if stack.isEmpty then .ok rest else skipAt fuel .behindValue stack rest
    match place, stack with
    | .value, stack =>
      match skipSpace s with
      | '[' :: rest => skipAt fuel .opened (.list :: stack) rest
      | '\x7b' :: rest => skipAt fuel .opened (.object :: stack) rest
      | s =>
        match skipScalar s with
        | .ok rest => behind stack rest
        | .error e => .error e
    | _, [] => .ok s
    | place, bracket :: outer =>
      match skipSpace s with
      | [] => .error bracket.endProblem
      | c :: rest =>
        if c = bracket.closing then behind outer rest
        else if place = .behindValue then
          if c = ',' then
            match skipKey bracket rest with
            | .ok rest => skipAt fuel .value stack rest
            | .error e => .error e
          else .error bracket.commaProblem
        else
          match skipKey bracket (c :: rest) with
          | .ok rest => skipAt fuel .value stack rest
          | .error e => .error e

def skipValue (s : List Char) : Except Problem (List Char) :=
  skipAt (2 * s.length + 2) .value [] s

end ChainFollower.Json
