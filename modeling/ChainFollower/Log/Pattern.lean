import ChainFollower.Text.Alphanumeric
import ChainFollower.Text.Blank
import ChainFollower.Text.Number
import ChainFollower.Text.Numeral

/-!
Regular expressions as values of the fields in a directive. Only their form is of interest, because
no record of this library has a field whose value could be matched. Letters without regard to case
and classes such as `\d` and `\pL` mean Unicode tables, and are refused because there are none, but
for the ASCII classes after Unicode has been switched off. What is not Unicode must still be text.
A count in braces cannot end, as a closing brace ends the field before it.
-/

namespace ChainFollower.Pattern

inductive Problem where
  /-- Malformed, or in need of tables. -/
  | unbuildable
  /-- The boundary of a word is looked for in Unicode. -/
  | unsupported
  deriving DecidableEq, Repr

def Problem.message : Problem → String
  | unbuildable => "error building NFA"
  | unsupported =>
    "unsupported regex feature for DFAs: cannot build DFAs for regexes with Unicode word " ++
      "boundaries; switch to ASCII word boundaries, or heuristically enable Unicode word " ++
      "boundaries or use a different regex engine"

/-- What an expression can switch on and off for the parts that follow. Other switches matter only
when something is matched. -/
structure Switches where
  ignoreCase : Bool
  unicode : Bool
  /-- White space and comments are passed over. -/
  spaced : Bool
  deriving DecidableEq, Repr

namespace Switches

/-- Passes over white space and comments. A comment ends with its line. -/
def passOver (comment : Bool) : List Char → List Char
  | [] => []
  | c :: rest =>
    if comment then passOver (c != '\n') rest
    else if Text.isBlank c then passOver false rest
    else if c = '#' then passOver true rest
    else c :: rest

/-- The text from the next character that means something. -/
def skip (switches : Switches) (s : List Char) : List Char :=
  if switches.spaced then passOver false s else s

/-- The character behind a hyphen in brackets. The sign of a comment is passed over, but not the
comment; white space alone is not. -/
def peek (switches : Switches) (s : List Char) : Option Char :=
  if switches.spaced then
    match s.dropWhile Text.isBlank with
    | [] => s.head?
    | '#' :: rest => ((rest.dropWhile Text.isBlank).head?).orElse (fun _ => s.head?)
    | c :: _ => some c
  else s.head?

def set (switches : Switches) (letter : Char) (on : Bool) : Option Switches :=
  match letter with
  | 'i' => some { switches with ignoreCase := on }
  | 'u' => some { switches with unicode := on }
  | 'x' => some { switches with spaced := on }
  | 'm' => some switches
  | 's' => some switches
  | 'U' => some switches
  | 'R' => some switches
  | _ => none

/-- Reads letters of switches up to a colon or a closing parenthesis, which comes back with the text
behind it. A hyphen makes the letters after it switch off; `seen` holds what was read, and nothing
stands there twice. -/
def read (on : Bool) (seen : List Char) (switches : Switches) :
    List Char → Option (Switches × Char × List Char)
  | [] => none
  | c :: rest =>
    if c = ':' || c = ')' then
      if seen.head? = some '-' || (c = ')' && seen.isEmpty) then none else some (switches, c, rest)
    else if seen.contains c then none
    else if c = '-' then read false (c :: seen) switches rest
    else
      match switches.set c on with
      | some switches => read on (c :: seen) switches rest
      | none => none

end Switches

/-- The smallest parts of an expression, but for the dot. -/
inductive Atom where
  /-- `coded` says that two hexadecimal digits gave its code. -/
  | char (c : Char) (coded : Bool)
  /-- Digits, spaces, or what words consist of; or all but these. -/
  | shorthand (negated : Bool)
  | wordBoundary
  | textBoundary
  deriving DecidableEq, Repr

namespace Atom

def stands (switches : Switches) : Atom → Bool
  | char c coded =>
    if switches.unicode then !switches.ignoreCase else !coded || c.toNat ≤ 0x7f
  | shorthand negated => !switches.unicode && !negated
  | wordBoundary => true
  | textBoundary => true

def isMember (switches : Switches) : Atom → Bool
  | char c _ => if switches.unicode then !switches.ignoreCase else c.toNat ≤ 0x7f
  | shorthand negated => !switches.unicode && !negated
  | wordBoundary => false
  | textBoundary => false

def readCode (switches : Switches) : Nat → Nat → List Char → Option (Nat × List Char)
  | 0, code, s => some (code, s)
  | digits + 1, code, s =>
    match switches.skip s with
    | [] => none
    | c :: rest =>
      match Text.hexValue? c with
      | some digit => readCode switches digits (16 * code + digit) rest
      | none => none

def readCoded (switches : Switches) (digits : Nat) (s : List Char) : Option (Atom × List Char) :=
  match readCode switches digits 0 s with
  | none => none
  | some (code, rest) =>
    if code < 0xd800 || (0xdfff < code && code < 0x110000) then
      some (char (Char.ofNat code) (digits == 2), rest)
    else none

/-- Reads what follows a backslash. A letter or a digit needs a meaning; any other ASCII character
stands for itself. -/
def readEscaped (switches : Switches) : List Char → Option (Atom × List Char)
  | [] => none
  | 'x' :: rest => readCoded switches 2 rest
  | 'u' :: rest => readCoded switches 4 rest
  | 'U' :: rest => readCoded switches 8 rest
  | 'd' :: rest => some (shorthand false, rest)
  | 's' :: rest => some (shorthand false, rest)
  | 'w' :: rest => some (shorthand false, rest)
  | 'D' :: rest => some (shorthand true, rest)
  | 'S' :: rest => some (shorthand true, rest)
  | 'W' :: rest => some (shorthand true, rest)
  | 'a' :: rest => some (char '\x07' false, rest)
  | 'f' :: rest => some (char '\x0c' false, rest)
  | 't' :: rest => some (char '\t' false, rest)
  | 'n' :: rest => some (char '\n' false, rest)
  | 'r' :: rest => some (char '\r' false, rest)
  | 'v' :: rest => some (char '\x0b' false, rest)
  | 'A' :: rest => some (textBoundary, rest)
  | 'z' :: rest => some (textBoundary, rest)
  | 'b' :: rest => some (wordBoundary, rest)
  | 'B' :: rest => some (wordBoundary, rest)
  | '<' :: rest => some (wordBoundary, rest)
  | '>' :: rest => some (wordBoundary, rest)
  | c :: rest =>
    if c.toNat ≤ 0x7f && !Text.Alphanumeric.contains c.toNat then some (char c false, rest)
    else none

/-- Reads a character, or what a backslash makes of those behind it. -/
def read (switches : Switches) : List Char → Option (Atom × List Char)
  | [] => none
  | '\\' :: rest => readEscaped switches rest
  | c :: rest => some (char c false, rest)

end Atom

def depthOf : List Nat → Nat
  | [] => 0
  | [depth] => depth
  | depths => 1 + depths.foldr max 0

structure Bracket where
  negated : Bool
  /-- Nothing has been read but hyphens, which stand for themselves here, as does a bracket that
  closes, if it comes first. -/
  fresh : Bool
  /-- How deep the members since the last operator are, the last one first. -/
  members : List Nat
  /-- How deep what stands before the last operator is. -/
  operand : Option Nat
  deriving DecidableEq, Repr

namespace Bracket

def opened (switches : Switches) (s : List Char) : Bracket × List Char :=
  match switches.skip s with
  | '^' :: rest => (⟨true, true, [], none⟩, rest)
  | s => (⟨false, true, [], none⟩, s)

def add (bracket : Bracket) (depth : Nat) : Bracket :=
  { bracket with members := depth :: bracket.members }

def content (bracket : Bracket) : Nat :=
  match bracket.operand with
  | none => depthOf bracket.members
  | some operand => 1 + max operand (depthOf bracket.members)

/-- An operator stands behind what has been read. -/
def operator (bracket : Bracket) : Bracket :=
  { bracket with fresh := false, members := [], operand := some bracket.content }

def classNames : List String :=
  ["alnum", "alpha", "ascii", "blank", "cntrl", "digit", "graph", "lower", "print", "punct",
   "space", "upper", "word", "xdigit"]

/-- Reads the name of an ASCII class between colons, whose opening bracket has been read; a caret in
front of the name stands for all but the class. -/
def readClass (s : List Char) : Option (Bool × List Char) :=
  match s with
  | ':' :: rest =>
    let negated := rest.head? = some '^'
    let rest := if negated then rest.tail else rest
    let name := rest.takeWhile (· != ':')
    match rest.drop name.length with
    | ':' :: ']' :: rest =>
      if classNames.contains (String.ofList name) then some (negated, rest) else none
    | _ => none
  | _ => none

/-- Reads a member of brackets: a character, a range of them, or a class in one letter. -/
def readMember (switches : Switches) (s : List Char) : Option (List Char) :=
  match Atom.read switches s with
  | none => none
  | some (first, rest) =>
    if !first.isMember switches then none
    else
      match switches.skip rest with
      | '-' :: behind =>
        let next := switches.peek behind
        if next = some ']' || next = some '-' then some ('-' :: behind)
        else
          match first, Atom.read switches (switches.skip behind) with
          | .char low _, some (.char high coded, rest) =>
            if (Atom.char high coded).isMember switches && low ≤ high then some rest else none
          | _, _ => none
      | rest => some rest

/-- Reads brackets to their end, and gives back how deep they are. `outer` holds the open brackets
around them. -/
def read (switches : Switches) :
    Nat → List Bracket → Bracket → List Char → Option (Nat × List Char)
  | 0, _, _, _ => none
  | fuel + 1, outer, bracket, s =>
    match switches.skip s with
    | [] => none
    | c :: rest =>
      if bracket.fresh && (c = '-' || (c = ']' && bracket.members.isEmpty)) then
        if (Atom.char c false).isMember switches then
          read switches fuel outer { bracket.add 0 with fresh := c = '-' } rest
        else none
      else
        let bracket := { bracket with fresh := false }
        match c, rest with
        | '[', _ =>
          match readClass rest with
          | some (negated, rest) =>
            if if switches.unicode then switches.ignoreCase else negated then none
            else read switches fuel outer (bracket.add 0) rest
          | none =>
            let nested := opened switches rest
            read switches fuel (bracket :: outer) nested.1 nested.2
        | ']', _ =>
          if bracket.negated && !switches.unicode then none
          else
            match outer with
            | [] => some (1 + bracket.content, rest)
            | around :: outer => read switches fuel outer (around.add (1 + bracket.content)) rest
        | '&', '&' :: rest => read switches fuel outer bracket.operator rest
        | '-', '-' :: rest => read switches fuel outer bracket.operator rest
        | '~', '~' :: rest => read switches fuel outer bracket.operator rest
        | _, _ =>
          match readMember switches (c :: rest) with
          | some rest => read switches fuel outer bracket rest
          | none => none

end Bracket

structure Group where
  /-- How deep the branches before the last bar are. -/
  branches : List Nat
  /-- How deep the parts of the last branch are, the last one first; nothing for switches, which
  cannot be repeated. -/
  parts : List (Option Nat)
  deriving DecidableEq, Repr

namespace Group

def empty : Group := ⟨[], []⟩

def add (group : Group) (depth : Nat) : Group :=
  { group with parts := some depth :: group.parts }

def branch (group : Group) : Nat :=
  depthOf (group.parts.map (·.getD 0))

def depth (group : Group) : Nat :=
  depthOf (group.branch :: group.branches)

def bar (group : Group) : Group :=
  ⟨group.branch :: group.branches, []⟩

def repeated (group : Group) : Option Group :=
  match group.parts with
  | some depth :: parts => some { group with parts := some (1 + depth) :: parts }
  | _ => none

end Group

structure Reading where
  switches : Switches
  group : Group
  /-- The groups around, with the switches that hold there again, the innermost one first. -/
  outer : List (Switches × Group)
  names : List (List Char)
  /-- A boundary of a word is looked for in Unicode. -/
  unsupported : Bool
  deriving DecidableEq, Repr

def maxDepth : Nat := 250

namespace Reading

def start : Reading := ⟨⟨false, true, false⟩, .empty, [], [], false⟩

def add (reading : Reading) (depth : Nat) : Reading :=
  { reading with group := reading.group.add depth }

def opened (reading : Reading) (switches : Switches) : Reading :=
  { reading with
    switches := switches
    group := .empty
    outer := (reading.switches, reading.group) :: reading.outer }

def closed (reading : Reading) : Option Reading :=
  match reading.outer with
  | [] => none
  | (switches, group) :: outer =>
    some { reading with
      switches := switches, group := group.add (1 + reading.group.depth), outer := outer }

def isName : List Char → Bool
  | [] => false
  | first :: rest =>
    (first = '_' ||
        (Text.Alphanumeric.contains first.toNat && !Text.Numeral.contains first.toNat)) &&
      rest.all (fun c =>
        c = '_' || c = '.' || c = '[' || c = ']' || Text.Alphanumeric.contains c.toNat)

/-- Opens a group whose name comes next. No two groups have one name. -/
def named (reading : Reading) (s : List Char) : Option (Reading × List Char) :=
  let name := s.takeWhile (· != '>')
  match s.drop name.length with
  | '>' :: rest =>
    if isName name && !reading.names.contains name then
      some ({ reading with names := name :: reading.names }.opened reading.switches, rest)
    else none
  | _ => none

/-- Reads what follows an opening parenthesis. There is no looking around. -/
def grouped (reading : Reading) (s : List Char) : Option (Reading × List Char) :=
  match reading.switches.skip s with
  | '?' :: '=' :: _ => none
  | '?' :: '!' :: _ => none
  | '?' :: '<' :: '=' :: _ => none
  | '?' :: '<' :: '!' :: _ => none
  | '?' :: 'P' :: '<' :: rest => reading.named rest
  | '?' :: '<' :: rest => reading.named rest
  | '?' :: rest =>
    match Switches.read true [] reading.switches rest with
    | none => none
    | some (switches, ':', rest) => some (reading.opened switches, rest)
    | some (switches, _, rest) =>
      some ({ reading with
        switches := switches
        group := { reading.group with parts := none :: reading.group.parts } }, rest)
  | s => some (reading.opened reading.switches, s)

/-- Repeats the last part. A question mark behind the sign asks for as few as can be. -/
def repeated (reading : Reading) (s : List Char) : Option (Reading × List Char) :=
  reading.group.repeated.map (fun group =>
    ({ reading with group := group }, if s.head? = some '?' then s.tail else s))

def atom (reading : Reading) (s : List Char) : Option (Reading × List Char) :=
  match Atom.read reading.switches s with
  | none => none
  | some (atom, rest) =>
    if !atom.stands reading.switches then none
    else
      let boundary := atom = .wordBoundary && reading.switches.unicode
      some ({ reading.add 0 with unsupported := reading.unsupported || boundary }, rest)

/-- Reads the next part of a text that is not empty. -/
def part (reading : Reading) (c : Char) (rest : List Char) : Option (Reading × List Char) :=
  match c with
  | '(' => reading.grouped rest
  | ')' => reading.closed.map (·, rest)
  | '|' => some ({ reading with group := reading.group.bar }, rest)
  | '[' =>
    let bracket := Bracket.opened reading.switches rest
    (Bracket.read reading.switches (rest.length + 1) [] bracket.1 bracket.2).map (fun found =>
      (reading.add found.1, found.2))
  | '?' => reading.repeated rest
  | '*' => reading.repeated rest
  | '+' => reading.repeated rest
  | '\x7b' => none
  | '.' => if reading.switches.unicode then some (reading.add 0, rest) else none
  | '^' => some (reading.add 0, rest)
  | '$' => some (reading.add 0, rest)
  | c => reading.atom (c :: rest)

def parts : Nat → Reading → List Char → Option Reading
  | 0, _, _ => none
  | fuel + 1, reading, s =>
    match reading.switches.skip s with
    | [] => if reading.outer.isEmpty && reading.group.depth ≤ maxDepth then some reading else none
    | c :: rest =>
      match reading.part c rest with
      | none => none
      | some (reading, rest) => parts fuel reading rest

end Reading

/-- Why a text cannot be used as a pattern, if it cannot. -/
def problem? (s : List Char) : Option Problem :=
  match Reading.parts (s.length + 1) .start s with
  | none => some .unbuildable
  | some reading => if reading.unsupported then some .unsupported else none

end ChainFollower.Pattern
