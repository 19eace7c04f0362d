import ChainFollower.Proofs.Addresses

/-!
What becomes of an address: the host that its form shows and one port, its own or else the default
one. Reading the result again changes nothing.
-/

namespace ChainFollower

def IsControl (c : Char) : Prop :=
  c.toNat < 0x20 ∨ 0x7f ≤ c.toNat ∧ c.toNat < 0xa0

def IsPrintable (c : Char) : Prop :=
  33 ≤ c.toNat ∧ c.toNat ≤ 126

inductive PortUse where
  | refused
  | own
  | default
  deriving DecidableEq

namespace Endpoint

section Normal

variable {address : String} {defaultPort : UInt16}

theorem address_ne_nil {s shown : List Char} {own : Option UInt16} (form : Address s shown own) :
    s ≠ [] := by
  rintro rfl
  obtain ⟨endpoint, read, -⟩ := ofTrimmed_complete 0 form
  cases read

theorem normal_of_nil (empty : Text.trim address.toList = []) :
    normal defaultPort address = .error .empty := by
  simp only [normal, ofAddress, empty]
  rfl

theorem normal_of_ne_nil (some : Text.trim address.toList ≠ []) :
    normal defaultPort address = (ofTrimmed defaultPort (Text.trim address.toList)).map render := by
  simp only [normal, ofAddress, List.isEmpty_iff, some, if_false]

theorem normal_eq_ok {s : String} :
    normal defaultPort address = .ok s ↔
      ∃ shown own, Address (Text.trim address.toList) shown own ∧
        s.toList = shown ++ ':' :: Text.decimal (own.getD defaultPort).toNat := by
  constructor
  · intro accepted
    by_cases empty : Text.trim address.toList = []
    · rw [normal_of_nil empty] at accepted
      cases accepted
    rw [normal_of_ne_nil empty] at accepted
    cases read : ofTrimmed defaultPort (Text.trim address.toList) with
    | error error =>
      rw [read] at accepted
      cases accepted
    | ok endpoint =>
      rw [read] at accepted
      cases accepted
      obtain ⟨own, form, port⟩ := ofTrimmed_sound read
      exact ⟨_, own, form, by simp [render, port]⟩
  · rintro ⟨shown, own, form, same⟩
    obtain ⟨endpoint, read, rfl, port⟩ := ofTrimmed_complete defaultPort form
    rw [normal_of_ne_nil (address_ne_nil form), read]
    rw [← port] at same
    exact congrArg Except.ok (String.toList_inj.mp (by simp [render, same]))

theorem normal_eq_error {error : AddressError} :
    normal defaultPort address = .error error ↔
      error = .empty ∧ Text.trim address.toList = [] ∨
      Text.trim address.toList ≠ [] ∧
        (∀ shown own, ¬ Address (Text.trim address.toList) shown own) ∧
        (BadPort (Text.trim address.toList) ∧
            error = .invalidPort (String.ofList (Text.trim address.toList)) ∨
          ¬ BadPort (Text.trim address.toList) ∧
            error = .invalidHost (String.ofList (Text.trim address.toList))) := by
  by_cases empty : Text.trim address.toList = []
  · rw [normal_of_nil empty]
    simp [empty, eq_comm]
  rw [normal_of_ne_nil empty]
  cases read : ofTrimmed defaultPort (Text.trim address.toList) with
  | ok endpoint =>
    obtain ⟨own, form, -⟩ := ofTrimmed_sound read
    constructor
    · intro refused
      cases refused
    · rintro (⟨-, nothing⟩ | ⟨-, noForm, -⟩)
      · exact absurd nothing empty
      · exact absurd form (noForm _ _)
  | error known =>
    obtain ⟨noForm, why⟩ := ofTrimmed_error read
    constructor
    · intro refused
      cases refused
      exact .inr ⟨empty, noForm, why⟩
    · rintro (⟨-, nothing⟩ | ⟨-, -, why'⟩)
      · exact absurd nothing empty
      · rcases why with ⟨bad, rfl⟩ | ⟨good, rfl⟩ <;> rcases why' with ⟨bad', rfl⟩ | ⟨good', rfl⟩
        · rfl
        · exact absurd bad good'
        · exact absurd bad' good
        · rfl

/-- An address has one form as far as its host and its port go. -/
theorem address_unique {s shown shown' : List Char} {own own' : Option UInt16}
    (one : Address s shown own) (other : Address s shown' own') : shown = shown' ∧ own = own' := by
  have both : ∀ port, shown = shown' ∧ own.getD port = own'.getD port := by
    intro port
    obtain ⟨endpoint, read, rfl, used⟩ := ofTrimmed_complete port one
    obtain ⟨endpoint', read', rfl, used'⟩ := ofTrimmed_complete port other
    cases read.symm.trans read'
    exact ⟨rfl, used.symm.trans used'⟩
  refine ⟨(both 0).1, ?_⟩
  have zero := (both 0).2
  have unit := (both 1).2
  cases own with
  | none =>
    cases own' with
    | none => rfl
    | some port => exact absurd (zero.trans unit.symm) (by simp)
  | some port =>
    cases own' with
    | none => exact absurd (zero.symm.trans unit) (by simp)
    | some port' => exact congrArg some zero

theorem isPrintable_hexDigit {c : Char} (hex : Text.isHexDigit c = true) : IsPrintable c := by
  simp only [Text.isHexDigit, Text.hexValue?] at hex
  split_ifs at hex
  · exact ⟨by omega, by omega⟩
  · exact ⟨by omega, by omega⟩
  · exact ⟨by omega, by omega⟩
  · cases hex

theorem isPrintable_decimal (n : Nat) : ∀ c ∈ Text.decimal n, IsPrintable c := fun c hc =>
  isPrintable_hexDigit
    (Text.isHexDigit_of_isDigit ((Text.spells_ten.mp (Text.spells_decimal n)).2.1 c hc))

theorem isPrintable_ipv4 (ip : Ipv4) : ∀ c ∈ ip.render, IsPrintable c := by
  intro c hc
  rcases ip.characters c hc with decimal | rfl
  · exact isPrintable_hexDigit (Text.isHexDigit_of_isDigit decimal)
  · exact ⟨by decide, by decide⟩

theorem isPrintable_scope (scope : UInt32) : ∀ c ∈ shownScope scope, IsPrintable c := by
  intro c hc
  rw [shownScope] at hc
  split at hc
  · cases hc
  · rcases List.mem_cons.mp hc with rfl | digit
    · exact ⟨by decide, by decide⟩
    · exact isPrintable_decimal _ c digit

theorem isPrintable_ipv6 {ip : Ipv6} {t : List Char} (canonical : ip.Canonical t)
    (scope : UInt32) : ∀ c ∈ '[' :: t ++ shownScope scope ++ [']'], IsPrintable c := by
  intro c hc
  simp only [List.mem_append, List.mem_cons, List.not_mem_nil, or_false] at hc
  rcases hc with ((rfl | inside) | behind) | rfl
  · exact ⟨by decide, by decide⟩
  · rcases canonical.spells.characters c inside with hex | rfl | rfl
    · exact isPrintable_hexDigit hex
    · exact ⟨by decide, by decide⟩
    · exact ⟨by decide, by decide⟩
  · exact isPrintable_scope scope c behind
  · exact ⟨by decide, by decide⟩

theorem isPrintable_shown {s shown : List Char} {own : Option UInt16} (form : Address s shown own) :
    ∀ c ∈ shown, IsPrintable c := by
  cases form with
  | ipv4 ip => exact isPrintable_ipv4 ip
  | ipv4Port ip _ => exact isPrintable_ipv4 ip
  | ipv6 _ canonical => simpa [shownScope] using isPrintable_ipv6 canonical 0
  | bracketed _ canonical => simpa [shownScope] using isPrintable_ipv6 canonical 0
  | ipv6Port _ canonical _ _ => exact isPrintable_ipv6 canonical _
  | name isHostname => exact fun c hc => toNat_of_isNameChar (isHostname.characters c hc)
  | namePort isHostname _ => exact fun c hc => toNat_of_isNameChar (isHostname.characters c hc)

theorem isPrintable_normal {s : String} (accepted : normal defaultPort address = .ok s) :
    ∀ c ∈ s.toList, IsPrintable c := by
  obtain ⟨shown, own, form, same⟩ := normal_eq_ok.mp accepted
  intro c hc
  rw [same] at hc
  rcases List.mem_append.mp hc with inHost | behind
  · exact isPrintable_shown form c inHost
  · rcases List.mem_cons.mp behind with rfl | digit
    · exact ⟨by decide, by decide⟩
    · exact isPrintable_decimal _ c digit

theorem isBlank_of_isPrintable {c : Char} (printable : IsPrintable c) : Text.isBlank c = false := by
  obtain ⟨low, high⟩ := printable
  simp only [Text.isBlank, Bool.or_eq_false_iff, Bool.and_eq_false_iff, decide_eq_false_iff_not,
    beq_eq_false_iff_ne]
  omega

theorem not_isControl_of_isPrintable {c : Char} (printable : IsPrintable c) : ¬ IsControl c := by
  obtain ⟨low, high⟩ := printable
  simp only [IsControl]
  omega

/-- The host that an address shows, with whatever port behind it, is an address of that host and that
port. -/
theorem address_shown {s shown : List Char} {own : Option UInt16} (form : Address s shown own)
    (port : UInt16) : Address (shown ++ ':' :: Text.decimal port.toNat) shown (some port) := by
  have isPort : IsPort port (Text.decimal port.toNat) := Text.spells_decimal _
  have bracketed : ∀ {ip : Ipv6} {c : List Char} (scope : UInt32), ip.Canonical c →
      Address ('[' :: c ++ shownScope scope ++ [']'] ++ ':' :: Text.decimal port.toNat)
        ('[' :: c ++ shownScope scope ++ [']']) (some port) := by
    intro ip c scope canonical
    simpa using Address.ipv6Port canonical.spells canonical (isScope_shownScope scope) isPort
  cases form with
  | ipv4 ip => exact .ipv4Port ip isPort
  | ipv4Port ip _ => exact .ipv4Port ip isPort
  | ipv6 _ canonical => simpa [shownScope] using bracketed 0 canonical
  | bracketed _ canonical => simpa [shownScope] using bracketed 0 canonical
  | ipv6Port _ canonical _ _ => exact bracketed _ canonical
  | name isHostname => exact .namePort isHostname ⟨_, .inl rfl, isPort⟩
  | namePort isHostname _ => exact .namePort isHostname ⟨_, .inl rfl, isPort⟩

/-- Which texts are addresses, what they become and which complaint the others get: with the white
space at the two ends gone, an address becomes the host it shows with its own port or else the default
one, and nothing in that is white space or a control character. -/
theorem accepted_addresses (defaultPort : UInt16) (address : String) :
    ∃ t, Text.Trimmed address.toList t ∧
      (normal defaultPort address = .error .empty ↔ t = []) ∧
      ((∃ s, normal defaultPort address = .ok s) ↔ ∃ shown own, Address t shown own) ∧
      (∀ text, normal defaultPort address = .error (.invalidPort text) ↔
        text = String.ofList t ∧ BadPort t ∧ ∀ shown own, ¬ Address t shown own) ∧
      (∀ text, normal defaultPort address = .error (.invalidHost text) ↔
        text = String.ofList t ∧ t ≠ [] ∧ ¬ BadPort t ∧ ∀ shown own, ¬ Address t shown own) ∧
      (∀ s, normal defaultPort address = .ok s ↔ ∃ shown own, Address t shown own ∧
        s.toList = shown ++ ':' :: Text.decimal (own.getD defaultPort).toNat) ∧
      ∀ s, normal defaultPort address = .ok s →
        ∀ c ∈ s.toList, Text.isBlank c = false ∧ ¬ IsControl c := by
  refine ⟨Text.trim address.toList, Text.trimmed_trim _, ?_, ?_, ?_, ?_, ?_, ?_⟩
  · constructor
    · intro refused
      rcases normal_eq_error.mp refused with ⟨-, nothing⟩ | ⟨-, -, ⟨-, other⟩ | ⟨-, other⟩⟩
      · exact nothing
      · cases other
      · cases other
    · exact normal_of_nil
  · constructor
    · rintro ⟨s, accepted⟩
      obtain ⟨shown, own, form, -⟩ := normal_eq_ok.mp accepted
      exact ⟨shown, own, form⟩
    · rintro ⟨shown, own, form⟩
      exact ⟨_, normal_eq_ok.mpr ⟨shown, own, form, String.toList_ofList⟩⟩
  · intro text
    constructor
    · intro refused
      rcases normal_eq_error.mp refused with ⟨other, -⟩ | ⟨-, noForm, ⟨bad, same⟩ | ⟨-, other⟩⟩
      · cases other
      · cases same
        exact ⟨rfl, bad, noForm⟩
      · cases other
    · rintro ⟨rfl, bad, noForm⟩
      exact normal_eq_error.mpr (.inr ⟨bad.ne_nil, noForm, .inl ⟨bad, rfl⟩⟩)
  · intro text
    constructor
    · intro refused
      rcases normal_eq_error.mp refused with ⟨other, -⟩ | ⟨some, noForm, ⟨-, other⟩ | ⟨good, same⟩⟩
      · cases other
      · cases other
      · cases same
        exact ⟨rfl, some, good, noForm⟩
    · rintro ⟨rfl, some, good, noForm⟩
      exact normal_eq_error.mpr (.inr ⟨some, noForm, .inr ⟨good, rfl⟩⟩)
  · exact fun s => normal_eq_ok
  · intro s accepted c hc
    have printable := isPrintable_normal accepted c hc
    exact ⟨isBlank_of_isPrintable printable, not_isControl_of_isPrintable printable⟩

/-- What has been normalized stays as it is, whatever the default port then. -/
theorem normal_idempotent {address s : String} {p q : UInt16}
    (accepted : normal p address = .ok s) : normal q s = .ok s := by
  obtain ⟨shown, own, form, same⟩ := normal_eq_ok.mp accepted
  have plain : Text.trim s.toList = s.toList :=
    Text.trim_eq_self fun c hc => isBlank_of_isPrintable (isPrintable_normal accepted c hc)
  refine normal_eq_ok.mpr ⟨shown, some (own.getD p), ?_, same⟩
  rw [plain, same]
  exact address_shown form _

theorem normal_idempotent_ipv6 :
    normal 8333 " [2001:DB8::0001] " = .ok "[2001:db8::1]:8333" ∧
      normal 18333 "[2001:db8::1]:8333" = .ok "[2001:db8::1]:8333" := by
  have accepted : normal 8333 " [2001:DB8::0001] " = .ok "[2001:db8::1]:8333" := by rfl
  exact ⟨accepted, normal_idempotent accepted⟩

/-- A complaint does not depend on the default port. -/
theorem normal_error_any {p : UInt16} {error : AddressError}
    (refused : normal p address = .error error) (q : UInt16) :
    normal q address = .error error :=
  normal_eq_error.mpr (normal_eq_error.mp refused)

end Normal

def withPort (host : List Char) (port : UInt16) : String :=
  String.ofList (host ++ ':' :: Text.decimal port.toNat)

theorem withPort_inj {host : List Char} {p q : UInt16} (same : withPort host p = withPort host q) :
    p = q := by
  have lists := String.ofList_injective same
  exact UInt16.toNat_inj.mp (Text.decimal_inj (List.cons.inj (List.append_cancel_left lists)).2)

/-- What two readings of an address with two default ports show of where its port comes from. -/
def Shows (address : String) (p q : UInt16) : PortUse → Prop
  | .refused => ∃ error, normal p address = .error error ∧ normal q address = .error error
  | .own => ∃ s, normal p address = .ok s ∧ normal q address = .ok s
  | .default => ∃ host, normal p address = .ok (withPort host p) ∧
      normal q address = .ok (withPort host q)

section Ports

variable {address : String} {p q : UInt16}

theorem Shows.exclusive {use other : PortUse} (different : p ≠ q)
    (one : Shows address p q use) (another : Shows address p q other) : other = use := by
  cases use with
  | refused =>
    obtain ⟨error, refused, -⟩ := one
    cases other with
    | refused => rfl
    | own =>
      obtain ⟨s, accepted, -⟩ := another
      cases refused.symm.trans accepted
    | default =>
      obtain ⟨host, accepted, -⟩ := another
      cases refused.symm.trans accepted
  | own =>
    obtain ⟨s, accepted, again⟩ := one
    cases other with
    | refused =>
      obtain ⟨error, refused, -⟩ := another
      cases refused.symm.trans accepted
    | own => rfl
    | default =>
      obtain ⟨host, accepted', again'⟩ := another
      have left := accepted.symm.trans accepted'
      have right := again.symm.trans again'
      exact absurd (withPort_inj (Except.ok.inj (left.symm.trans right))) different
  | default =>
    obtain ⟨host, accepted, again⟩ := one
    cases other with
    | refused =>
      obtain ⟨error, refused, -⟩ := another
      cases refused.symm.trans accepted
    | own =>
      obtain ⟨s, accepted', again'⟩ := another
      have left := accepted.symm.trans accepted'
      have right := again.symm.trans again'
      exact absurd (withPort_inj (Except.ok.inj (left.trans right.symm))) different
    | default => rfl

theorem normal_eq_withPort {shown : List Char} {own : Option UInt16}
    (form : Address (Text.trim address.toList) shown own) (p : UInt16) :
    normal p address = .ok (withPort shown (own.getD p)) :=
  normal_eq_ok.mpr ⟨shown, own, form, String.toList_ofList⟩

theorem shows_refused (noForm : ∀ shown own, ¬ Address (Text.trim address.toList) shown own) :
    Shows address p q .refused := by
  cases read : normal p address with
  | ok s =>
    obtain ⟨shown, own, form, -⟩ := normal_eq_ok.mp read
    exact absurd form (noForm shown own)
  | error error => exact ⟨error, read, normal_error_any read q⟩

end Ports

/-- The default port is used only for an address that carries none, and which address that is does not
depend on the port. -/
theorem default_port_use (address : String) :
    ∃ use : PortUse,
      (use = .own ↔ ∃ shown port, Address (Text.trim address.toList) shown (some port)) ∧
      (use = .default ↔ ∃ shown, Address (Text.trim address.toList) shown none) ∧
      ∀ p q, p ≠ q → ∀ other, Shows address p q other ↔ other = use := by
  have only : ∀ use, (∀ p q, Shows address p q use) →
      ∀ p q, p ≠ q → ∀ other, Shows address p q other ↔ other = use := by
    intro use always p q different other
    constructor
    · exact Shows.exclusive different (always p q)
    · rintro rfl
      exact always p q
  by_cases accepted : ∃ shown own, Address (Text.trim address.toList) shown own
  · obtain ⟨shown, own, form⟩ := accepted
    have read := normal_eq_withPort form
    cases own with
    | some port =>
      refine ⟨.own, ?_, ?_, only .own fun p q => ⟨_, read p, read q⟩⟩
      · exact ⟨fun _ => ⟨shown, port, form⟩, fun _ => rfl⟩
      · constructor
        · intro other
          cases other
        · rintro ⟨shown', form'⟩
          cases (address_unique form form').2
    | none =>
      refine ⟨.default, ?_, ?_, only .default fun p q => ⟨shown, read p, read q⟩⟩
      · constructor
        · intro other
          cases other
        · rintro ⟨shown', port, form'⟩
          cases (address_unique form form').2
      · exact ⟨fun _ => ⟨shown, form⟩, fun _ => rfl⟩
  · have noForm : ∀ shown own, ¬ Address (Text.trim address.toList) shown own :=
      fun shown own form => accepted ⟨shown, own, form⟩
    refine ⟨.refused, ?_, ?_, only .refused fun p q => shows_refused noForm⟩
    · constructor
      · intro other
        cases other
      · rintro ⟨shown, port, form⟩
        exact absurd form (noForm _ _)
    · constructor
      · intro other
        cases other
      · rintro ⟨shown, form⟩
        exact absurd form (noForm _ _)

theorem default_port_use_name :
    (8333 : UInt16) ≠ 18333 ∧
      ∀ other, Shows "peer.example.com" 8333 18333 other ↔ other = .default := by
  have different : (8333 : UInt16) ≠ 18333 := by decide
  obtain ⟨use, -, -, only⟩ := default_port_use "peer.example.com"
  have shown : Shows "peer.example.com" 8333 18333 .default := ⟨"peer.example.com".toList, rfl, rfl⟩
  have same := (only 8333 18333 different .default).mp shown
  exact ⟨different, same ▸ only 8333 18333 different⟩

end Endpoint

end ChainFollower
