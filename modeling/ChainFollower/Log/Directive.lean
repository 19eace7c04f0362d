import ChainFollower.Log.Pattern
import ChainFollower.Log.Record
import ChainFollower.Text.Slice

/-!
Directives of a log filter: a level for everything, `target=level` for the areas whose names begin
with the target, or a target alone, which lets all of its records through. Brackets may follow the
target; they hold the name of a span, or names of fields in braces, or both.
-/

namespace ChainFollower

/-- The most verbose level that passes; `none` lets nothing pass. -/
abbrev Threshold := Option Level

namespace Threshold

def passes : Threshold → Level → Bool
  | none, _ => false
  | some most, level => level.rank ≤ most.rank

/-- The threshold that lets levels up to that rank pass. -/
def ofRank? : Nat → Option Threshold
  | 0 => some none
  | 1 => some (some .error)
  | 2 => some (some .warn)
  | 3 => some (some .info)
  | 4 => some (some .debug)
  | 5 => some (some .trace)
  | _ => none

def named? (name : List Char) : Option Threshold :=
  if name = ['o', 'f', 'f'] then some none
  else if name = ['e', 'r', 'r', 'o', 'r'] then some (some .error)
  else if name = ['w', 'a', 'r', 'n'] then some (some .warn)
  else if name = ['i', 'n', 'f', 'o'] then some (some .info)
  else if name = ['d', 'e', 'b', 'u', 'g'] then some (some .debug)
  else if name = ['t', 'r', 'a', 'c', 'e'] then some (some .trace)
  else none

def parse? (s : List Char) : Option Threshold :=
  match Text.signedDecimal? 5 s with
  | some rank => ofRank? rank
  | none => named? (s.map Char.toLower)

end Threshold

structure Field where
  name : List Char
  /-- The directive asks for a value, too. -/
  valued : Bool
  deriving DecidableEq, Repr

namespace Field

/-- The power of ten behind the digits of a number. -/
def isExponent (s : List Char) : Bool :=
  match s with
  | [] => true
  | e :: rest =>
    let digits := match rest with
      | '+' :: digits => digits
      | '-' :: digits => digits
      | digits => digits
    (e = 'e' || e = 'E') && !digits.isEmpty && digits.all Text.isDigit

/-- A number without a sign: digits with a point among them or none, or an infinity, or none that is
a number. -/
def isMagnitude (s : List Char) : Bool :=
  let lower := s.map Char.toLower
  if lower = ['i', 'n', 'f'] || lower = ['i', 'n', 'f', 'i', 'n', 'i', 't', 'y'] ||
      lower = ['n', 'a', 'n'] then true
  else
    let whole := s.takeWhile Text.isDigit
    match s.drop whole.length with
    | '.' :: rest =>
      let fraction := rest.takeWhile Text.isDigit
      !(whole.isEmpty && fraction.isEmpty) && isExponent (rest.drop fraction.length)
    | rest => !whole.isEmpty && isExponent rest

def isNumber : List Char → Bool
  | '+' :: rest => isMagnitude rest
  | '-' :: rest => isMagnitude rest
  | s => isMagnitude s

/-- Reads a name, or a name and a value that is a number or a pattern. What follows a second equals
sign is passed over. -/
def parse (s : List Char) : Except Pattern.Problem Field :=
  match Text.splitWhen (· == '=') s with
  | name :: value :: _ =>
    if isNumber value then .ok ⟨name, true⟩
    else
      match Pattern.problem? value with
      | some problem => .error problem
      | none => .ok ⟨name, true⟩
  | _ => .ok ⟨s, false⟩

end Field

structure Directive where
  /-- Nothing for all areas. -/
  target : Option (List Char)
  /-- For records made inside a span of some name only. The library has no spans. -/
  spanned : Bool
  /-- For records with these fields only. -/
  fields : List Field
  threshold : Threshold
  deriving DecidableEq, Repr

namespace Directive

inductive Problem where
  | malformed
  | unknownLevel
  | field (problem : Pattern.Problem)
  /-- The text cannot be cut where a part begins or ends. -/
  | miscut (cut : Text.Miscut)
  deriving DecidableEq, Repr

/-- What a text is refused for; one that cannot be cut is a panic. -/
def Problem.stop (text : String) (problem : Problem) : Stop :=
  let refused (reason : String) : Stop :=
    .failed (.logging ("invalid directive " ++ Text.quote text ++ ": " ++ reason))
  match problem with
  | malformed => refused "invalid filter directive"
  | unknownLevel =>
    refused ("error parsing level filter: expected one of \"off\", \"error\", \"warn\", " ++
      "\"info\", \"debug\", \"trace\", or a number 0-5")
  | field problem => refused ("invalid field filter: " ++ problem.message)
  | miscut cut => .panicked cut.message

def ofThreshold (threshold : Threshold) : Directive := ⟨none, false, [], threshold⟩

/-- A directive begins with such a character, or with brackets. -/
def isInitial (c : Char) : Bool :=
  c = '-' || c = ':' || c = '_' || Text.Alphanumeric.contains c.toNat

/-- What is being read of a directive. A part that is cut out later has the position at which it
begins. -/
inductive Part where
  | start
  /-- A target, or a level without one. -/
  | name
  | span (first : Nat)
  | field (first : Nat)
  | afterFields
  | afterSpan
  | level (first : Nat)
  | complete
  deriving DecidableEq, Repr

def cut (text : List Char) (first : Nat) (last : Option Nat) : Except Problem (List Char) :=
  match Text.slice text first last with
  | .ok part => .ok part
  | .error miscut => .error (.miscut miscut)

/-- A level; none at all lets everything pass. -/
def readLevel (s : List Char) : Except Problem Threshold :=
  if s.isEmpty then .ok (some .trace)
  else
    match Threshold.parse? s with
    | some threshold => .ok threshold
    | none => .error .unknownLevel

/-- The directive without an equals sign or brackets: a level if it reads as one, else a target. -/
def ofName (text : List Char) : Directive :=
  match Threshold.parse? text with
  | some threshold => ofThreshold threshold
  | none => ⟨some text, false, [], some .trace⟩

def addField (directive : Directive) (s : List Char) : Except Problem Directive :=
  if s.isEmpty then .error .malformed
  else
    match Field.parse s with
    | .ok field => .ok { directive with fields := directive.fields ++ [field] }
    | .error problem => .error (.field problem)

/-- Goes on from the character at a byte position. -/
def step (text : List Char) (position : Nat) (c : Char) (part : Part) (directive : Directive) :
    Except Problem (Part × Directive) :=
  match part with
  | .start =>
    if c = '[' then .ok (.span (position + 1), directive)
    else if isInitial c then .ok (.name, directive)
    else .error .malformed
  | .name =>
    if c = '=' then do
      let target ← cut text 0 position
      pure (.level (position + 1), { directive with target := target })
    else if c = '[' then do
      let target ← cut text 0 position
      pure (.span (position + 1), { directive with target := target })
    else if c = ',' then .ok (.complete, ofName text)
    else .ok (.name, directive)
  | .span first =>
    if c = ']' then do
      let _ ← cut text first position
      pure (.afterSpan, { directive with spanned := true })
    else if c = '\x7b' then do
      let name ← cut text first position
      pure (.field (position + 1), { directive with spanned := !name.isEmpty })
    else .ok (.span first, directive)
  | .field first =>
    if c = '\x7d' || c = ',' then do
      let directive ← directive.addField (← cut text first position)
      pure (if c = ',' then .field (position + 1) else .afterFields, directive)
    else .ok (.field first, directive)
  | .afterFields => if c = ']' then .ok (.afterSpan, directive) else .error .malformed
  | .afterSpan => if c = '=' then .ok (.level (position + 1), directive) else .error .malformed
  | .level first =>
    if c = ',' then do
      let threshold ← readLevel (← cut text first position)
      pure (.complete, { directive with threshold := threshold })
    else .ok (.level first, directive)
  | .complete => .error .malformed

/-- Goes on to the end of what is shown of the text, whose next character stands at a byte
position. -/
def scan (text : List Char) :
    Nat → List Char → Part → Directive → Except Problem (Part × Directive)
  | _, [], part, directive => .ok (part, directive)
  | position, c :: rest, part, directive =>
    match step text position c part directive with
    | .error problem => .error problem
    | .ok (part, directive) => scan text (position + c.utf8Size) rest part directive

def finish (text : List Char) (part : Part) (directive : Directive) : Except Problem Directive :=
  match part with
  | .name => .ok (ofName text)
  | .level first => do
    let threshold ← readLevel (← cut text first none)
    pure { directive with threshold := threshold }
  | .afterSpan => .ok directive
  | .complete => .ok directive
  | _ => .error .malformed

/-- Reads a directive. Its parts are found in the text without the white space around it, and cut
out of the text as it stands at the same byte positions. -/
def parse (text : List Char) : Except Problem Directive :=
  match scan text 0 (Text.trim text) .start (ofThreshold (some .trace)) with
  | .error problem => .error problem
  | .ok (part, directive) => finish text part directive

def fieldNames : List (List Char) := [['m', 'e', 's', 's', 'a', 'g', 'e']]

/-- Whether the directive is for records of the area of that name. One that asks for a span or for
values of fields waits for spans. -/
def applies (directive : Directive) (area : List Char) : Bool :=
  !directive.spanned &&
    directive.fields.all (fun field => !field.valued && fieldNames.contains field.name) &&
    match directive.target with
    | none => true
    | some target => target.isPrefixOf area

/-- The longer a directive's target, the more it says; one without a target says least. Of targets
of one length the one with more fields says more. -/
def weight (directive : Directive) : Nat × Nat :=
  (match directive.target with
    | none => 0
    | some target => target.length + 1, directive.fields.length)

def outweighs (directive other : Directive) : Bool :=
  other.weight.1 < directive.weight.1 ||
    (other.weight.1 == directive.weight.1 && other.weight.2 ≤ directive.weight.2)

end Directive

end ChainFollower
