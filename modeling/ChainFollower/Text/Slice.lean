import ChainFollower.Text.Quoted

/-!
Parts of a text between byte positions of its UTF-8 form. A position inside a character cuts no part
off.
-/

namespace ChainFollower.Text

/-- A byte position inside a character. -/
structure Miscut where
  /-- A part should begin there; otherwise one should end there. -/
  begins : Bool
  position : Nat
  character : Char
  /-- The position of the character's first byte. -/
  first : Nat
  deriving DecidableEq, Repr

def Miscut.message (cut : Miscut) : String :=
  (if cut.begins then "start" else "end") ++
    s!" byte index {cut.position} is not a char boundary; it is inside '" ++
    String.ofList (escapeChar cut.character) ++
    s!"' (bytes {cut.first}..{cut.first + cut.character.utf8Size} of string)"

/-- The character that a byte position is inside of, with its first byte's position; the text begins
at byte `first`. -/
def inside? (position : Nat) : Nat → List Char → Option (Char × Nat)
  | _, [] => none
  | first, c :: rest =>
    if first < position && position < first + c.utf8Size then some (c, first)
    else inside? position (first + c.utf8Size) rest

/-- The characters that begin before the byte position. -/
def takeBytes : Nat → List Char → List Char
  | _, [] => []
  | count, c :: rest => if count = 0 then [] else c :: takeBytes (count - c.utf8Size) rest

/-- The characters that do not begin before the byte position. -/
def dropBytes : Nat → List Char → List Char
  | _, [] => []
  | count, c :: rest => if count = 0 then c :: rest else dropBytes (count - c.utf8Size) rest

/-- The part from one byte position to another one that is not less, or to the end. The first
position is looked at first. -/
def slice (s : List Char) (start : Nat) (stop : Option Nat) : Except Miscut (List Char) :=
  match inside? start 0 s with
  | some (c, first) => .error ⟨true, start, c, first⟩
  | none =>
    match stop with
    | none => .ok (dropBytes start s)
    | some stop =>
      match inside? stop 0 s with
      | some (c, first) => .error ⟨false, stop, c, first⟩
      | none => .ok (dropBytes start (takeBytes stop s))

end ChainFollower.Text
