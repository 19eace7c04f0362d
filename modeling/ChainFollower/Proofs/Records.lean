import ChainFollower.Proofs.Forms

/-!
Records in JSON objects, whatever the types of their fields: the members of an object may stand in any
order with any others among them, and what is read depends on the fields that are there only.
-/

namespace ChainFollower.Json

variable {σ α : Type}

def Member (member : String × List Char) (s : List Char) : Prop :=
  ∃ before name behind after last, IsSpaces before ∧ Quotes member.1 name ∧ IsSpaces behind ∧
    IsSpaces after ∧ IsSpaces last ∧
    s = before ++ (name ++ (behind ++ ':' :: (after ++ (member.2 ++ last))))

def known (names : List String) (members : List (String × List Char)) : List String :=
  (members.map Prod.fst).filter (· ∈ names)

def Fits (names : List String) (tells : String → List Char → Prop) (member : String × List Char) :
    Prop :=
  if member.1 ∈ names then tells member.1 member.2 else IsValue member.2

/-- The text is an object that gives these fields of a record, each of them once, with the values that
`tells` wants; there may be members with other names. -/
def Gives (names : List String) (tells : String → List Char → Prop) (given : List String)
    (s : List Char) : Prop :=
  given.Nodup ∧ ∃ members : List (String × List Char), Bracket.object.Holds Member members s ∧
    known names members = given ∧ ∀ member ∈ members, Fits names tells member

def Shape.names (shape : Shape σ α) : List String :=
  shape.fields.map (·.name)

/-- The fields are read one after the other, and `draft` is what is collected of those read so far. -/
structure Shape.Collects (shape : Shape σ α) (tells : String → List Char → Prop)
    (draft : List String → σ) : Prop where
  start : shape.start = draft []
  absent : ∀ field ∈ shape.fields, ∀ names, field.name ∉ names → field.given (draft names) = false
  read : ∀ field ∈ shape.fields, ∀ names value, tells field.name value → ∀ w rest, IsSpaces w →
    Ends rest → field.read (draft names) (w ++ (value ++ rest)) =
      .ok (draft (names ++ [field.name]), rest)

/-! ### Reading -/

theorem nextItem_first {s t : List Char} {c : Char} (first : skipSpace s = c :: t)
    (other : c ≠ '\x7d') : nextItem .object true s = .ok (some (c :: t)) := by
  simp [nextItem, first, other, Bracket.closing]

theorem nextItem_comma {s t w : List Char} {c : Char} (spaces : IsSpaces w)
    (first : skipSpace s = c :: t) (other : c ≠ '\x7d') :
    nextItem .object false (w ++ ',' :: s) = .ok (some (c :: t)) := by
  simp [nextItem, skipSpace_cons spaces (c := ',') (by decide), first, other, Bracket.closing]

theorem nextItem_closing {w : List Char} (spaces : IsSpaces w) (first : Bool) (rest : List Char) :
    nextItem .object first (w ++ '\x7d' :: rest) = .ok none := by
  simp [nextItem, skipSpace_cons spaces (c := '\x7d') (by decide), Bracket.closing]

theorem closeRecord_closing {w : List Char} (spaces : IsSpaces w) (rest : List Char) :
    closeRecord .object (w ++ '\x7d' :: rest) = .ok rest := by
  simp [closeRecord, skipSpace_cons spaces (c := '\x7d') (by decide), Bracket.closing]

theorem behindColon_append {w : List Char} (spaces : IsSpaces w) (rest : List Char) :
    behindColon (w ++ ':' :: rest) = .ok rest := by
  simp [behindColon, skipSpace_cons spaces (c := ':') (by decide)]

theorem Shape.find_known {shape : Shape σ α} {name : String} (among : name ∈ shape.names) :
    ∃ field ∈ shape.fields, field.name = name ∧
      shape.fields.find? (fun field => field.name.toList == name.toList) = some field := by
  obtain ⟨field, mem, named⟩ := List.mem_map.mp among
  cases found : shape.fields.find? (fun field => field.name.toList == name.toList) with
  | none =>
    have other := List.find?_eq_none.mp found field mem
    simp [named] at other
  | some field =>
    have same := List.find?_some found
    exact ⟨field, List.mem_of_find?_eq_some found, by simpa [String.toList_inj] using same, rfl⟩

theorem Shape.find_unknown {shape : Shape σ α} {name : String} (other : name ∉ shape.names) :
    shape.fields.find? (fun field => field.name.toList == name.toList) = none := by
  apply List.find?_eq_none.mpr
  intro field mem same
  apply other
  exact List.mem_map.mpr ⟨field, mem, by simpa [String.toList_inj] using same⟩

/-- A member begins with a quote. -/
theorem Member.starts {member : String × List Char} {s : List Char} (stands : Member member s)
    (rest : List Char) : ∃ t, skipSpace (s ++ rest) = '"' :: t := by
  obtain ⟨before, name, behind, after, last, spaces, ⟨inside, -, rfl⟩, -, -, -, rfl⟩ := stands
  have here := skipSpace_cons spaces (c := '"') (by decide)
    (inside ++ '"' :: (behind ++ ':' :: (after ++ (member.2 ++ (last ++ rest)))))
  exact ⟨_, by simpa using here⟩

theorem known_cons (names : List String) (member : String × List Char)
    (members : List (String × List Char)) :
    known names (member :: members) = known names [member] ++ known names members := by
  by_cases among : member.1 ∈ names <;> simp [known, among]

theorem not_mem_of_distinct {names given : List String} {member : String × List Char}
    {members : List (String × List Char)} (distinct : (given ++ known names (member :: members)).Nodup)
    (among : member.1 ∈ names) : member.1 ∉ given := by
  intro earlier
  have here : member.1 ∈ known names (member :: members) := by
    simp [known, among]
  exact (List.nodup_append.mp distinct).2.2 _ earlier _ here rfl

/-- One member is read: if it is a field, it is collected, else nothing changes. -/
theorem readMembers_member {shape : Shape σ α} {tells : String → List Char → Prop}
    {draft : List String → σ} (collects : shape.Collects tells draft) {member : String × List Char}
    {s : List Char} (stands : Member member s) (fits : Fits shape.names tells member)
    {names : List String} (fresh : member.1 ∈ shape.names → member.1 ∉ names) {first : Bool}
    {text : List Char} {c : Char} (apart : c = ',' ∨ c = ']' ∨ c = '\x7d') {rest : List Char}
    (next : nextItem .object first text = .ok (some (skipSpace (s ++ c :: rest)))) (fuel : Nat) :
    ∃ w, IsSpaces w ∧ readMembers shape (fuel + 1) first (draft names) text =
      readMembers shape fuel false (draft (names ++ known shape.names [member])) (w ++ c :: rest) := by
  obtain ⟨before, name, behind, after, last, spaces, ⟨inside, means, rfl⟩, spaces', spaces'', ends,
    rfl⟩ := stands
  have quote : skipSpace (before ++ ('"' :: inside ++ ['"'] ++ (behind ++ ':' :: (after ++
      (member.2 ++ last)))) ++ c :: rest) = '"' :: (inside ++ '"' :: (behind ++ ':' :: (after ++
        (member.2 ++ (last ++ c :: rest))))) := by
    simpa using skipSpace_cons spaces (c := '"') (by decide)
      (inside ++ '"' :: (behind ++ ':' :: (after ++ (member.2 ++ (last ++ c :: rest)))))
  have follows := ends_cons ends apart rest
  refine ⟨last, ends, ?_⟩
  rw [readMembers, next, quote]
  simp only [unquote_means means, behindColon_append spaces']
  by_cases among : member.1 ∈ shape.names
  · obtain ⟨field, mem, named, found⟩ := Shape.find_known among
    have absent : field.given (draft names) = false :=
      collects.absent field mem names (named ▸ fresh among)
    rw [Fits, if_pos among] at fits
    have value := collects.read field mem names member.2 (named ▸ fits) after _ spaces'' follows
    simp [found, absent, value, known, among, named]
  · rw [Fits, if_neg among] at fits
    have value := skipValue_append fits spaces'' follows
    simp [Shape.find_unknown among, value, known, among]

theorem Joined.first_member {members : List (String × List Char)} {s : List Char}
    (joined : Joined Member members s) (rest : List Char) : ∃ t, skipSpace (s ++ rest) = '"' :: t := by
  cases joined with
  | single only => exact only.starts rest
  | cons one others => simpa using one.starts (',' :: (_ ++ rest))

/-- All members are read, up to the closing brace. -/
theorem readMembers_joined {shape : Shape σ α} {tells : String → List Char → Prop}
    {draft : List String → σ} (collects : shape.Collects tells draft)
    {members : List (String × List Char)} {inside : List Char} (joined : Joined Member members inside)
    (fits : ∀ member ∈ members, Fits shape.names tells member) {names : List String}
    (distinct : (names ++ known shape.names members).Nodup) {first : Bool} {text rest : List Char}
    (next : nextItem .object first text = .ok (some (skipSpace (inside ++ '\x7d' :: rest))))
    {fuel : Nat} (enough : members.length < fuel) :
    ∃ w, IsSpaces w ∧ readMembers shape fuel first (draft names) text =
      .ok (draft (names ++ known shape.names members), w ++ '\x7d' :: rest) := by
  induction joined generalizing names first text fuel with
  | @single member s only =>
    obtain ⟨more, rfl⟩ : ∃ more, fuel = more + 1 + 1 := ⟨fuel - 2, by simp at enough; omega⟩
    obtain ⟨w, spaces, read⟩ := readMembers_member collects only (fits member (by simp))
      (not_mem_of_distinct distinct) (.inr (.inr rfl)) next (more + 1)
    refine ⟨w, spaces, ?_⟩
    rw [read, readMembers, nextItem_closing spaces]
  | @cons member members s t one others ih =>
    obtain ⟨more, rfl⟩ : ∃ more, fuel = more + 1 := ⟨fuel - 1, by omega⟩
    rw [List.append_assoc, List.cons_append] at next
    obtain ⟨w, spaces, read⟩ := readMembers_member collects one (fits member (by simp))
      (not_mem_of_distinct distinct) (.inl rfl) next more
    obtain ⟨u, following⟩ := others.first_member ('\x7d' :: rest)
    -- A known member joins those that were read; the others go on from there, behind their comma.
    have next' := nextItem_comma spaces following (by decide)
    rw [known_cons, ← List.append_assoc] at distinct ⊢
    rw [← following] at next'
    obtain ⟨w', spaces', read'⟩ := ih (fun other among => fits other (by simp [among])) distinct next'
      (by simpa using enough)
    exact ⟨w', spaces', read.trans read'⟩

theorem Joined.length_le {item : α → List Char → Prop} (some : ∀ a s, item a s → s ≠ []) {as : List α}
    {s : List Char} (joined : Joined item as s) : as.length ≤ s.length := by
  induction joined with
  | single only => exact List.length_pos_iff.mpr (some _ _ only)
  | cons one _ ih =>
    have long := List.length_pos_iff.mpr (some _ _ one)
    simp only [List.length_cons, List.length_append]
    omega

theorem Member.ne_nil (member : String × List Char) (s : List Char) (stands : Member member s) :
    s ≠ [] := by
  obtain ⟨before, name, behind, after, last, -, -, -, -, -, rfl⟩ := stands
  simp

/-- The members of a whole object are read, and there may be none. -/
theorem readMembers_holds {shape : Shape σ α} {tells : String → List Char → Prop}
    {draft : List String → σ} (collects : shape.Collects tells draft)
    {members : List (String × List Char)} {inside : List Char}
    (stands : members = [] ∧ IsSpaces inside ∨ Joined Member members inside)
    (fits : ∀ member ∈ members, Fits shape.names tells member)
    (distinct : (known shape.names members).Nodup) (rest : List Char) :
    ∃ w, IsSpaces w ∧ readMembers shape (inside ++ '\x7d' :: rest).length true shape.start
      (inside ++ '\x7d' :: rest) = .ok (draft (known shape.names members), w ++ '\x7d' :: rest) := by
  rw [collects.start]
  rcases stands with ⟨rfl, blank⟩ | joined
  · refine ⟨inside, blank, ?_⟩
    rw [List.length_append, List.length_cons, ← Nat.add_assoc, readMembers, nextItem_closing blank]
    rfl
  · obtain ⟨t, first⟩ := joined.first_member ('\x7d' :: rest)
    have next := nextItem_first first (by decide)
    have few := joined.length_le Member.ne_nil
    have distinct' : ([] ++ known shape.names members).Nodup := distinct
    rw [← first] at next
    apply readMembers_joined collects joined fits distinct' next
    simp only [List.length_append, List.length_cons]
    omega

/-- A record is read from any object that gives some of its fields: what becomes of these. -/
theorem readRecord_gives {shape : Shape σ α} {tells : String → List Char → Prop}
    {draft : List String → σ} (collects : shape.Collects tells draft) {given : List String}
    {s w : List Char} (gives : Gives shape.names tells given s) (spaces : IsSpaces w)
    (rest : List Char) : readRecord shape (w ++ (s ++ rest)) =
      (shape.finish (draft given)).map fun value => (value, rest) := by
  obtain ⟨distinct, members, ⟨inside, stands, rfl⟩, rfl, fits⟩ := gives
  have opens : skipSpace (w ++ (Bracket.object.opening :: (inside ++ [Bracket.object.closing]) ++ rest))
      = '\x7b' :: (inside ++ '\x7d' :: rest) := by
    simpa [Bracket.opening, Bracket.closing] using
      skipSpace_cons spaces (c := '\x7b') (by decide) (inside ++ '\x7d' :: rest)
  obtain ⟨w', spaces', read⟩ := readMembers_holds collects stands fits distinct rest
  rw [readRecord, opens]
  simp only [read]
  cases shape.finish (draft (known shape.names members)) with
  | error problem => rfl
  | ok value => simp [closeRecord_closing spaces', Except.map]

/-! ### Writing -/

theorem joined_writeMembers (member : String × List Char) (members : List (String × List Char)) :
    Joined Member (member :: members) (writeMembers (member :: members)) := by
  have one (member : String × List Char) : Member member (writeString member.1 ++ ':' :: member.2) :=
    ⟨[], _, [], [], [], isSpaces_nil, quotes_writeString member.1, isSpaces_nil, isSpaces_nil,
      isSpaces_nil, by simp⟩
  induction members generalizing member with
  | nil => exact .single (one member)
  | cons next members ih =>
    have written := Joined.cons (one member) (ih next)
    simpa [writeMembers] using written

/-- What is written for a record gives all the fields that were written. -/
theorem gives_writeObject {names : List String} {tells : String → List Char → Prop}
    {members : List (String × List Char)} (distinct : (known names members).Nodup)
    (fits : ∀ member ∈ members, Fits names tells member) :
    Gives names tells (known names members) (writeObject members) := by
  refine ⟨distinct, members, ⟨writeMembers members, ?_, rfl⟩, rfl, fits⟩
  cases members with
  | nil => exact .inl ⟨rfl, isSpaces_nil⟩
  | cons member members => exact .inr (joined_writeMembers member members)

/-- The fields of a record that are written in their order are all of them. -/
theorem gives_all_writeObject {names : List String} (distinct : names.Nodup)
    {tells : String → List Char → Prop} {members : List (String × List Char)}
    (named : members.map Prod.fst = names) (fits : ∀ member ∈ members, tells member.1 member.2) :
    Gives names tells names (writeObject members) := by
  have all : known names members = names := by
    rw [known, named, List.filter_eq_self]
    simp
  have fields : ∀ member ∈ members, Fits names tells member := by
    intro member among
    have field : member.1 ∈ names := named ▸ List.mem_map_of_mem among
    rw [Fits, if_pos field]
    exact fits member among
  have gives := gives_writeObject (by rwa [all]) fields
  rwa [all] at gives

/-! ### All fields -/

def Complete (names : List String) (tells : String → List Char → Prop) (s : List Char) : Prop :=
  ∃ given, (∀ name ∈ names, name ∈ given) ∧ Gives names tells given s

theorem readRecord_complete {shape : Shape σ α} {tells : String → List Char → Prop}
    {draft : List String → σ} (collects : shape.Collects tells draft) {value : α}
    (whole : ∀ given, (∀ name ∈ shape.names, name ∈ given) → shape.finish (draft given) = .ok value)
    {s w : List Char} (complete : Complete shape.names tells s) (spaces : IsSpaces w)
    (rest : List Char) : readRecord shape (w ++ (s ++ rest)) = .ok (value, rest) := by
  obtain ⟨given, all, gives⟩ := complete
  rw [readRecord_gives collects gives spaces, whole given all]
  rfl

theorem Gives.complete {names : List String} {tells : String → List Char → Prop} {s : List Char}
    (gives : Gives names tells names s) : Complete names tells s :=
  ⟨names, fun _ among => among, gives⟩

def Alone (stands : List Char → Prop) (text : List Char) : Prop :=
  ∃ before s behind, IsSpaces before ∧ stands s ∧ IsSpaces behind ∧ text = before ++ (s ++ behind)

theorem alone_of {stands : List Char → Prop} {s : List Char} (one : stands s) : Alone stands s :=
  ⟨[], s, [], isSpaces_nil, one, isSpaces_nil, by simp⟩

theorem readWhole_alone {read : Scan α} {value : α} {stands : List Char → Prop}
    (reads : ∀ {s w}, stands s → IsSpaces w → ∀ rest, read (w ++ (s ++ rest)) = .ok (value, rest))
    {text : List Char} (alone : Alone stands text) :
    readWhole read (String.ofList text) = .ok value := by
  obtain ⟨before, s, behind, spaces, one, spaces', rfl⟩ := alone
  have nothing : skipSpace behind = [] := by
    simpa [skipSpace] using skipSpace_append spaces' []
  rw [readWhole, String.toList_ofList, reads one spaces]
  simp only [nothing]

def kept {β : Type} (name : String) (given : List String) (value : β) : Option β :=
  if name ∈ given then some value else none

section Kept

variable {β : Type} {name other : String} {given : List String} {value : β}

@[simp] theorem kept_nil : kept name [] value = none := by
  simp [kept]

@[simp] theorem kept_of_mem (among : name ∈ given) : kept name given value = some value := by
  simp [kept, among]

@[simp] theorem isSome_kept : (kept name given value).isSome = decide (name ∈ given) := by
  by_cases among : name ∈ given <;> simp [kept, among]

theorem kept_concat (apart : name ≠ other) :
    kept name (given ++ [other]) value = kept name given value := by
  simp [kept, apart]

end Kept

end ChainFollower.Json
