import ChainFollower.Log.Directive

/-!
The log that a process prints. A filter is made of the directives in the environment, of one that
lets informative records pass, and of those that a caller gives, in this order; the first filter
that is installed stays.
-/

namespace ChainFollower

abbrev Filter := List Directive

namespace Filter

/-- The valid ones of some directives. One that cannot be cut into its parts is a panic. -/
def valid : List (List Char) → Except Stop Filter
  | [] => .ok []
  | text :: rest =>
    match Directive.parse text with
    | .ok directive => (valid rest).map (directive :: ·)
    | .error (.miscut cut) => .error (.panicked cut.message)
    | .error _ => valid rest

/-- The valid ones of the directives in a text with commas between them. -/
def ofText (text : String) : Except Stop Filter :=
  valid (Text.splitWhen (· == ',') text.toList)

/-- For every area the informative records and those more severe. -/
def standard : Directive := .ofThreshold (some .info)

/-- The directives that a caller gives; the first invalid one is reported. -/
def ofList : List String → Except Stop Filter
  | [] => .ok []
  | text :: rest =>
    match Directive.parse text.toList with
    | .error problem => .error (problem.stop text)
    | .ok directive => (ofList rest).map (directive :: ·)

def assemble (environment : String) (texts : List String) : Except Stop Filter := do
  let outside ← ofText environment
  let given ← ofList texts
  pure (outside ++ standard :: given)

/-- Of the directives for an area the one that says most, the last of equals. -/
def decisive (filter : Filter) (area : List Char) : Option Directive :=
  (filter.filter (·.applies area)).foldl (fun best directive =>
    match best with
    | some kept => if directive.outweighs kept then some directive else some kept
    | none => some directive) none

def admits (filter : Filter) (record : LogRecord) : Bool :=
  match filter.decisive record.area.target.toList with
  | some directive => directive.threshold.passes record.level
  | none => false

end Filter

/-- The log of a process: what the environment says, and the filter once one is installed. -/
structure LogOutput where
  environment : String
  filter : Option Filter

namespace LogOutput

/-- Before any filter is installed nothing is printed. -/
def start (environment : String) : LogOutput := ⟨environment, none⟩

def install (output : LogOutput) (texts : List String) : Except Stop LogOutput :=
  match Filter.assemble output.environment texts with
  | .error stop => .error stop
  | .ok filter =>
    match output.filter with
    | some _ => .error (.failed (.logging "a global default trace dispatcher has already been set"))
    | none => .ok { output with filter := some filter }

/-- Installs filters one after the other; a failure changes nothing. -/
def installAll : LogOutput → List (List String) → List (Except Stop Unit) × LogOutput
  | output, [] => ([], output)
  | output, texts :: rest =>
    match output.install texts with
    | .error stop =>
      let later := installAll output rest
      (.error stop :: later.1, later.2)
    | .ok installed =>
      let later := installAll installed rest
      (.ok () :: later.1, later.2)

def admits (output : LogOutput) (record : LogRecord) : Bool :=
  match output.filter with
  | some filter => filter.admits record
  | none => false

/-- A record's line: the level in five columns, and the text. -/
def line (record : LogRecord) : String :=
  let name := record.level.name
  String.ofList (List.replicate (5 - name.length) ' ') ++ name ++ " " ++ record.text

def lines (output : LogOutput) (records : List LogRecord) : List String :=
  (records.filter output.admits).map line

end LogOutput

end ChainFollower
