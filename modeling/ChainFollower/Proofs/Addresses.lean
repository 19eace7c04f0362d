import ChainFollower.Proofs.Canonical
import ChainFollower.Proofs.Hostnames

/-!
The grammar of addresses, and that reading one comes to it: which texts are addresses, what host each
shows, whose port it gets, and which complaint each other text gets.
-/

namespace ChainFollower

def IsPort (port : UInt16) (s : List Char) : Prop :=
  Text.Spells 10 port.toNat s

def IsSignedPort (port : UInt16) (s : List Char) : Prop :=
  ∃ digits, (s = digits ∨ s = '+' :: digits) ∧ IsPort port digits

def IsScope (scope : UInt32) (s : List Char) : Prop :=
  scope = 0 ∧ s = [] ∨ ∃ digits, s = '%' :: digits ∧ Text.Spells 10 scope.toNat digits

def shownScope (scope : UInt32) : List Char :=
  if scope = 0 then [] else '%' :: Text.decimal scope.toNat

theorem isScope_shownScope (scope : UInt32) : IsScope scope (shownScope scope) := by
  simp only [shownScope]
  split
  · rename_i zero
    exact .inl ⟨zero, rfl⟩
  · exact .inr ⟨_, rfl, Text.spells_decimal _⟩

/-- The texts that are addresses, each with the host it shows and the port it carries. -/
inductive Address : List Char → List Char → Option UInt16 → Prop
  | ipv4 (ip : Ipv4) : Address ip.render ip.render none
  | ipv4Port (ip : Ipv4) {port : UInt16} {p : List Char} : IsPort port p →
      Address (ip.render ++ ':' :: p) ip.render (some port)
  | ipv6 {ip : Ipv6} {s c : List Char} : ip.Spells s → ip.Canonical c →
      Address s ('[' :: c ++ [']']) none
  | bracketed {ip : Ipv6} {s c : List Char} : ip.Spells s → ip.Canonical c →
      Address ('[' :: s ++ [']']) ('[' :: c ++ [']']) none
  | ipv6Port {ip : Ipv6} {scope : UInt32} {port : UInt16} {s c z p : List Char} :
      ip.Spells s → ip.Canonical c → IsScope scope z → IsPort port p →
      Address ('[' :: s ++ z ++ ']' :: ':' :: p) ('[' :: c ++ shownScope scope ++ [']']) (some port)
  | name {s : List Char} : IsHostname s → Address s s none
  | namePort {s p : List Char} {port : UInt16} : IsHostname s → IsSignedPort port p →
      Address (s ++ ':' :: p) s (some port)

/-- A host name with something behind its colon that is no port. -/
def BadPort (s : List Char) : Prop :=
  ∃ h p, s = h ++ ':' :: p ∧ ':' ∉ p ∧ IsHostname h ∧ ∀ port, ¬ IsSignedPort port p

theorem BadPort.ne_nil {s : List Char} (bad : BadPort s) : s ≠ [] := by
  obtain ⟨h, p, rfl, -⟩ := bad
  simp

namespace Endpoint

/-- The address as it is kept: always with a port. -/
def normal (defaultPort : UInt16) (address : String) : Except AddressError String :=
  (ofAddress defaultPort address).map render

section Readers

variable {s rest : List Char}

theorem toNat_ofNat_of_le {n : Nat} (small : n ≤ maxPort) : (UInt16.ofNat n).toNat = n := by
  rw [UInt16.toNat_ofNat', Nat.mod_eq_of_lt]
  exact Nat.lt_of_le_of_lt small (by decide)

theorem readPort_eq_some {port : UInt16} :
    readPort s = some (port, rest) ↔
      ∃ digits, s = ':' :: digits ++ rest ∧ IsPort port digits ∧ Text.Stops Text.isDigit rest := by
  simp only [readPort]
  constructor
  · intro read
    split at read
    · cases read
    · rename_i body colon
      obtain rfl := Reader.char_eq_some.mp colon
      split at read
      · rename_i n left number
        cases read
        obtain ⟨digits, rfl, spells, small, stops⟩ := Reader.number_eq_some.mp number
        exact ⟨digits, rfl, by rwa [IsPort, toNat_ofNat_of_le small], stops⟩
      · cases read
  · rintro ⟨digits, rfl, isPort, stops⟩
    have small : port.toNat ≤ maxPort := Nat.le_of_lt_succ port.toNat_lt
    have number : Reader.number maxPort (digits ++ rest) = some (port.toNat, rest) :=
      Reader.number_eq_some.mpr ⟨digits, rfl, isPort, small, stops⟩
    rw [List.cons_append, Reader.char_eq_some.mpr rfl]
    simp only [number, UInt16.ofNat_toNat]

theorem readIpv4_eq_some {endpoint : Endpoint} :
    Reader.whole readIpv4 s = some endpoint ↔
      ∃ ip p, s = ip.render ++ ':' :: p ∧ IsPort endpoint.port p ∧ endpoint.host = .ipv4 ip := by
  rw [Reader.whole_eq_some]
  simp only [readIpv4]
  constructor
  · intro read
    split at read
    · cases read
    · rename_i ip left taken
      obtain ⟨rfl, -⟩ := Ipv4.read_eq_some.mp taken
      split at read
      · rename_i port rest behind
        cases read
        obtain ⟨p, rfl, isPort, -⟩ := readPort_eq_some.mp behind
        exact ⟨ip, p, by simp, isPort, rfl⟩
      · cases read
  · obtain ⟨host, port⟩ := endpoint
    rintro ⟨ip, p, rfl, isPort, rfl⟩
    have colon : Text.Stops Text.isDigit (':' :: p) := by
      intro c first
      cases first
      rfl
    have taken : Ipv4.read (ip.render ++ ':' :: p) = some (ip, ':' :: p) :=
      Ipv4.read_eq_some.mpr ⟨rfl, colon⟩
    have behind : readPort (':' :: p) = some (port, []) :=
      readPort_eq_some.mpr ⟨p, by simp, isPort, by simp [Text.Stops]⟩
    simp only [taken, behind]

theorem readScope_eq {scope : UInt32} :
    readScope s = (scope, ']' :: rest) ↔ ∃ z, s = z ++ ']' :: rest ∧ IsScope scope z := by
  constructor
  · intro read
    simp only [readScope] at read
    split at read
    · rename_i body
      split at read
      · rename_i n left number
        cases read
        obtain ⟨digits, rfl, spells, small, -⟩ := Reader.number_eq_some.mp number
        have fits : (UInt32.ofNat n).toNat = n := by
          rw [UInt32.toNat_ofNat', Nat.mod_eq_of_lt (by omega)]
        exact ⟨'%' :: digits, by simp, .inr ⟨digits, rfl, by rwa [fits]⟩⟩
      · cases read
    · cases read
      exact ⟨[], rfl, .inl ⟨rfl, rfl⟩⟩
  · rintro ⟨z, rfl, ⟨rfl, rfl⟩ | ⟨digits, rfl, spells⟩⟩
    · rfl
    · have bracket : Text.Stops Text.isDigit (']' :: rest) := by
        intro c first
        cases first
        rfl
      have small : scope.toNat ≤ 4294967295 := Nat.le_of_lt_succ scope.toNat_lt
      have number : Reader.number 4294967295 (digits ++ ']' :: rest) =
          some (scope.toNat, ']' :: rest) :=
        Reader.number_eq_some.mpr ⟨digits, rfl, spells, small, bracket⟩
      simp only [List.cons_append, readScope, number, UInt32.ofNat_toNat]

theorem readIpv6_eq_some {endpoint : Endpoint} :
    Reader.whole readIpv6 s = some endpoint ↔
      ∃ ip scope t z p, s = '[' :: t ++ z ++ ']' :: ':' :: p ∧ ip.Spells t ∧ IsScope scope z ∧
        IsPort endpoint.port p ∧ endpoint.host = .ipv6 ip scope := by
  rw [Reader.whole_eq_some]
  constructor
  · intro read
    simp only [readIpv6] at read
    split at read
    · cases read
    rename_i body opened
    obtain rfl := Reader.char_eq_some.mp opened
    split at read
    · cases read
    rename_i ip left taken
    obtain ⟨t, rfl, spells⟩ := Ipv6.read_sound taken
    split at read
    · cases read
    rename_i inner closed
    obtain ⟨z, rfl, isScope⟩ := readScope_eq.mp (Prod.ext rfl (Reader.char_eq_some.mp closed))
    split at read
    · rename_i port rest behind
      cases read
      obtain ⟨p, rfl, isPort, -⟩ := readPort_eq_some.mp behind
      exact ⟨ip, _, t, z, p, by simp, spells, isScope, isPort, rfl⟩
    · cases read
  · obtain ⟨host, port⟩ := endpoint
    rintro ⟨ip, scope, t, z, p, rfl, spells, isScope, isPort, rfl⟩
    have ends : Ipv6.Ends (z ++ ']' :: ':' :: p) := by
      obtain ⟨-, rfl⟩ | ⟨digits, rfl, -⟩ := isScope
      · exact Ipv6.ends_cons (by decide) (by decide) (by decide)
      · exact Ipv6.ends_cons (by decide) (by decide) (by decide)
    have taken := Ipv6.read_complete spells ends
    have suffix : readScope (z ++ ']' :: ':' :: p) = (scope, ']' :: ':' :: p) :=
      readScope_eq.mpr ⟨z, rfl, isScope⟩
    have behind : readPort (':' :: p) = some (port, []) :=
      readPort_eq_some.mpr ⟨p, by simp, isPort, by simp [Text.Stops]⟩
    simp only [List.append_assoc, List.cons_append, readIpv6, Reader.char_eq_some.mpr rfl, taken,
      suffix, behind]

end Readers

section Branches

variable {s : List Char}

theorem render_ipv6 (ip : Ipv6) (scope : UInt32) :
    (Host.ipv6 ip scope).render = '[' :: ip.render ++ shownScope scope ++ [']'] := by
  simp only [Host.render, shownScope]
  split <;> simp

theorem render_unscoped (ip : Ipv6) : (Host.ipv6 ip 0).render = '[' :: ip.render ++ [']'] :=
  rfl

/-- What is not in a text that carries an IPv4 address, and how many colons are. -/
theorem ipv4_plain (ip : Ipv4) : '[' ∉ ip.render ∧ ip.render.count ':' = 0 := by
  constructor
  · intro member
    exact absurd (ip.characters _ member) (by decide)
  · rw [List.count_eq_zero]
    intro member
    exact absurd (ip.characters _ member) (by decide)

theorem port_plain {port : UInt16} {p : List Char} (isPort : IsPort port p) :
    '[' ∉ p ∧ p.count ':' = 0 ∧ p.getLast? ≠ some ']' := by
  have digits := (Text.spells_ten.mp isPort).2.1
  refine ⟨?_, ?_, ?_⟩
  · intro member
    exact absurd (digits _ member) (by decide)
  · rw [List.count_eq_zero]
    intro member
    exact absurd (digits _ member) (by decide)
  · intro last
    exact absurd (digits _ (List.mem_of_getLast? last)) (by decide)

theorem signedPort_plain {port : UInt16} {p : List Char} (isPort : IsSignedPort port p) :
    ':' ∉ p ∧ '[' ∉ p := by
  obtain ⟨digits, signed, isPort⟩ := isPort
  obtain ⟨bracket, colon, -⟩ := port_plain isPort
  have colon := List.count_eq_zero.mp colon
  rcases signed with rfl | rfl
  · exact ⟨colon, bracket⟩
  · simp [colon, bracket]

theorem spells_plain {ip : Ipv6} (spells : ip.Spells s) : '[' ∉ s ∧ 2 ≤ s.count ':' := by
  refine ⟨?_, spells.colons⟩
  intro member
  rcases spells.characters _ member with hex | colon | dot
  · exact absurd hex (by decide)
  · cases colon
  · cases dot

inductive IsSocket : List Char → Endpoint → Prop
  | ipv4 (ip : Ipv4) {p : List Char} {port : UInt16} : IsPort port p →
      IsSocket (ip.render ++ ':' :: p) ⟨.ipv4 ip, port⟩
  | ipv6 {ip : Ipv6} {scope : UInt32} {t z p : List Char} {port : UInt16} :
      ip.Spells t → IsScope scope z → IsPort port p →
      IsSocket ('[' :: t ++ z ++ ']' :: ':' :: p) ⟨.ipv6 ip scope, port⟩

theorem socket?_eq_some {endpoint : Endpoint} : socket? s = some endpoint ↔ IsSocket s endpoint := by
  simp only [socket?]
  constructor
  · intro read
    obtain ⟨host, port⟩ := endpoint
    split at read
    · rename_i found
      cases read
      obtain ⟨ip, p, rfl, isPort, rfl⟩ := readIpv4_eq_some.mp found
      exact .ipv4 ip isPort
    · obtain ⟨ip, scope, t, z, p, rfl, spells, isScope, isPort, rfl⟩ := readIpv6_eq_some.mp read
      exact .ipv6 spells isScope isPort
  · intro socket
    cases socket with
    | @ipv4 ip p port isPort =>
      have found : Reader.whole readIpv4 (ip.render ++ ':' :: p) = some ⟨.ipv4 ip, port⟩ :=
        readIpv4_eq_some.mpr ⟨ip, p, rfl, isPort, rfl⟩
      rw [found]
    | @ipv6 ip scope t z p port spells isScope isPort =>
      split
      · rename_i found
        obtain ⟨ip', p', same, isPort', -⟩ := readIpv4_eq_some.mp found
        have bracket : '[' ∈ ip'.render ++ ':' :: p' := same ▸ List.mem_cons_self ..
        simp [ipv4_plain, port_plain isPort'] at bracket
      · exact readIpv6_eq_some.mpr ⟨ip, scope, t, z, p, rfl, spells, isScope, isPort, rfl⟩

theorem literal?_eq_some {host : Host} :
    literal? s = some host ↔
      (∃ ip, s = ip.render ∧ host = .ipv4 ip) ∨ ∃ ip, Ipv6.Spells ip s ∧ host = .ipv6 ip 0 := by
  simp only [literal?]
  constructor
  · intro read
    split at read
    · rename_i ip found
      cases read
      exact .inl ⟨ip, Ipv4.whole_eq_some.mp found, rfl⟩
    · obtain ⟨ip, found, same⟩ := Option.map_eq_some_iff.mp read
      exact .inr ⟨ip, Ipv6.whole_eq_some.mp found, same.symm⟩
  · rintro (⟨ip, same, rfl⟩ | ⟨ip, spells, rfl⟩)
    · rw [Ipv4.whole_eq_some.mpr same]
    · split
      · rename_i ip' found
        have colons := (spells_plain spells).2
        rw [Ipv4.whole_eq_some.mp found, (ipv4_plain ip').2] at colons
        omega
      · rw [Ipv6.whole_eq_some.mpr spells, Option.map_some]

theorem bracketed?_eq_some {inner : List Char} :
    bracketed? s = some inner ↔ s = '[' :: inner ++ [']'] := by
  constructor
  · intro read
    simp only [bracketed?] at read
    split at read
    · rw [Text.dropLast?_eq_some.mp read]
      rfl
    · cases read
  · rintro rfl
    exact Text.dropLast?_eq_some.mpr rfl

theorem signedPort_of_decimal {p : List Char} {n : Nat}
    (read : Text.signedDecimal? maxPort p = some n) : IsSignedPort (UInt16.ofNat n) p := by
  obtain ⟨digits, signed, spells, small⟩ := Text.signedDecimal?_eq_some.mp read
  exact ⟨digits, signed, by rwa [IsPort, toNat_ofNat_of_le small]⟩

theorem signedDecimal?_of_isSignedPort {port : UInt16} {p : List Char} (isPort : IsSignedPort port p) :
    Text.signedDecimal? maxPort p = some port.toNat := by
  obtain ⟨digits, signed, spells⟩ := isPort
  exact Text.signedDecimal?_eq_some.mpr ⟨digits, signed, spells, Nat.le_of_lt_succ port.toNat_lt⟩

theorem named_name (defaultPort : UInt16) (isHostname : IsHostname s) :
    named defaultPort s = .ok ⟨.name s, defaultPort⟩ := by
  have absent : Text.splitLast ':' s = none := Text.splitLast_eq_none.mpr isHostname.not_mem.1
  simp only [named, absent, isName_iff.mpr isHostname, if_true]

theorem named_namePort (defaultPort : UInt16) {h p : List Char} {port : UInt16}
    (isHostname : IsHostname h) (isPort : IsSignedPort port p) :
    named defaultPort (h ++ ':' :: p) = .ok ⟨.name h, port⟩ := by
  have found : Text.splitLast ':' (h ++ ':' :: p) = some (h, p) :=
    Text.splitLast_eq_some.mpr ⟨rfl, (signedPort_plain isPort).1⟩
  have number := signedDecimal?_of_isSignedPort isPort
  simp only [named, found, isName_iff.mpr isHostname, if_true, number, UInt16.ofNat_toNat]

theorem named_sound {defaultPort : UInt16} {endpoint : Endpoint}
    (read : named defaultPort s = .ok endpoint) :
    ∃ own, Address s endpoint.host.render own ∧ endpoint.port = own.getD defaultPort := by
  simp only [named] at read
  split at read
  · rename_i h p found
    obtain ⟨rfl, -⟩ := Text.splitLast_eq_some.mp found
    split at read
    · rename_i isName
      split at read
      · rename_i n number
        cases read
        exact ⟨_, .namePort (isName_iff.mp isName) (signedPort_of_decimal number), rfl⟩
      · cases read
    · cases read
  · split at read
    · rename_i isName
      cases read
      exact ⟨none, .name (isName_iff.mp isName), rfl⟩
    · cases read

theorem named_error {defaultPort : UInt16} {error : AddressError}
    (refused : named defaultPort s = .error error) :
    BadPort s ∧ error = .invalidPort (String.ofList s) ∨
      ¬ BadPort s ∧ error = .invalidHost (String.ofList s) := by
  simp only [named] at refused
  split at refused
  · rename_i h p found
    obtain ⟨cut, last⟩ := Text.splitLast_eq_some.mp found
    split at refused
    · rename_i isName
      split at refused
      · cases refused
      · rename_i number
        cases refused
        refine .inl ⟨⟨h, p, cut, last, isName_iff.mp isName, fun port isPort => ?_⟩, rfl⟩
        cases number.symm.trans (signedDecimal?_of_isSignedPort isPort)
    · rename_i noName
      cases refused
      refine .inr ⟨?_, rfl⟩
      rintro ⟨h', p', cut', last', isHostname, -⟩
      cases found.symm.trans (Text.splitLast_eq_some.mpr ⟨cut', last'⟩)
      exact noName (isName_iff.mpr isHostname)
  · rename_i absent
    split at refused
    · cases refused
    · cases refused
      refine .inr ⟨?_, rfl⟩
      rintro ⟨h, p, rfl, -⟩
      exact Text.splitLast_eq_none.mp absent (by simp)

/-- What is accepted is an address, shown as its form says and with the port that it carries. -/
theorem ofTrimmed_sound {defaultPort : UInt16} {endpoint : Endpoint}
    (read : ofTrimmed defaultPort s = .ok endpoint) :
    ∃ own, Address s endpoint.host.render own ∧ endpoint.port = own.getD defaultPort := by
  simp only [ofTrimmed] at read
  split at read
  · rename_i found
    cases read
    cases socket?_eq_some.mp found with
    | ipv4 ip isPort => exact ⟨_, .ipv4Port ip isPort, rfl⟩
    | @ipv6 ip scope t z p port spells isScope isPort =>
      rw [render_ipv6]
      exact ⟨_, .ipv6Port spells ip.canonical_render isScope isPort, rfl⟩
  split at read
  · rename_i found
    cases read
    rcases literal?_eq_some.mp found with ⟨ip, rfl, rfl⟩ | ⟨ip, spells, rfl⟩
    · exact ⟨none, .ipv4 ip, rfl⟩
    · rw [render_unscoped]
      exact ⟨none, .ipv6 spells ip.canonical_render, rfl⟩
  split at read
  · rename_i found
    obtain rfl := bracketed?_eq_some.mp found
    split at read
    · rename_i ip inner
      cases read
      rw [render_unscoped]
      exact ⟨none, .bracketed (Ipv6.whole_eq_some.mp inner) ip.canonical_render, rfl⟩
    · cases read
  · exact named_sound read

theorem IsSocket.shape {endpoint : Endpoint} (socket : IsSocket s endpoint) :
    '[' ∉ s ∧ s.count ':' = 1 ∨ '[' ∈ s ∧ s.getLast? ≠ some ']' := by
  cases socket with
  | ipv4 ip isPort =>
    have plain := ipv4_plain ip
    have port := port_plain isPort
    left
    simp [plain, port]
  | ipv6 spells isScope isPort =>
    right
    refine ⟨by simp, ?_⟩
    obtain ⟨some, -⟩ := Text.spells_ten.mp isPort
    have port := (port_plain isPort).2.2
    obtain ⟨digit, digits, rfl⟩ := List.exists_cons_of_ne_nil some
    have last : (']' :: ':' :: digit :: digits).getLast? = (digit :: digits).getLast? := by
      rw [List.getLast?_cons_cons, List.getLast?_cons_cons]
    rw [List.getLast?_append, last, List.getLast?_cons] at *
    simpa using port

theorem IsSocket.colon {endpoint : Endpoint} (socket : IsSocket s endpoint) : ':' ∈ s := by
  cases socket <;> simp

theorem socket?_eq_none (none : ∀ endpoint, ¬ IsSocket s endpoint) : socket? s = .none :=
  Option.eq_none_iff_forall_ne_some.mpr fun _ found => none _ (socket?_eq_some.mp found)

theorem bracketed?_eq_none (noBracket : '[' ∉ s) : bracketed? s = none :=
  Option.eq_none_iff_forall_ne_some.mpr fun _ brackets =>
    noBracket (bracketed?_eq_some.mp brackets ▸ List.mem_cons_self ..)

/-- A host name may be a dotted address, which is shown as it stands all the same. -/
theorem ofTrimmed_name (defaultPort : UInt16) (isHostname : IsHostname s) :
    ∃ endpoint, ofTrimmed defaultPort s = .ok endpoint ∧ endpoint.host.render = s ∧
      endpoint.port = defaultPort := by
  obtain ⟨noColon, noBracket⟩ := isHostname.not_mem
  have noSocket : socket? s = none := socket?_eq_none fun _ socket => noColon socket.colon
  cases found : literal? s with
  | some host =>
    refine ⟨⟨host, defaultPort⟩, by simp only [ofTrimmed, noSocket, found], ?_, rfl⟩
    rcases literal?_eq_some.mp found with ⟨ip, same, rfl⟩ | ⟨ip, spells, -⟩
    · exact same.symm
    · have colons := (spells_plain spells).2
      rw [List.count_eq_zero.mpr noColon] at colons
      omega
  | none =>
    refine ⟨⟨.name s, defaultPort⟩, ?_, rfl, rfl⟩
    simp only [ofTrimmed, noSocket, found, bracketed?_eq_none noBracket,
      named_name defaultPort isHostname]

theorem ofTrimmed_namePort (defaultPort : UInt16) {h p : List Char} {port : UInt16}
    (isHostname : IsHostname h) (isPort : IsSignedPort port p) :
    ∃ endpoint, ofTrimmed defaultPort (h ++ ':' :: p) = .ok endpoint ∧
      endpoint.host.render = h ∧ endpoint.port = port := by
  obtain ⟨noColon, noBracket⟩ := isHostname.not_mem
  obtain ⟨portColon, portBracket⟩ := signedPort_plain isPort
  have bracket : '[' ∉ h ++ ':' :: p := by simp [noBracket, portBracket]
  cases found : socket? (h ++ ':' :: p) with
  | some endpoint =>
    refine ⟨endpoint, by simp only [ofTrimmed, found], ?_⟩
    have socket := socket?_eq_some.mp found
    generalize cut : h ++ ':' :: p = s at socket bracket
    cases socket with
    | @ipv4 ip p' port' isPort' =>
      have signed : IsSignedPort port' p' := ⟨p', .inl rfl, isPort'⟩
      obtain ⟨rfl, rfl⟩ := Text.last_cut_unique cut portColon (signedPort_plain signed).1
      have same := (signedDecimal?_of_isSignedPort isPort).symm.trans
        (signedDecimal?_of_isSignedPort signed)
      exact ⟨rfl, (UInt16.toNat_inj.mp (Option.some.inj same)).symm⟩
    | ipv6 _ _ _ => simp at bracket
  | none =>
    have noLiteral : literal? (h ++ ':' :: p) = none := by
      rw [Option.eq_none_iff_forall_ne_some]
      intro host found
      rcases literal?_eq_some.mp found with ⟨ip, same, -⟩ | ⟨ip, spells, -⟩
      · exact List.count_eq_zero.mp (ipv4_plain ip).2 (same ▸ by simp)
      · have colons := (spells_plain spells).2
        simp [List.count_eq_zero.mpr noColon, List.count_eq_zero.mpr portColon] at colons
    refine ⟨⟨.name h, port⟩, ?_, rfl, rfl⟩
    simp only [ofTrimmed, found, noLiteral, bracketed?_eq_none bracket,
      named_namePort defaultPort isHostname isPort]

theorem ofTrimmed_complete (defaultPort : UInt16) {shown : List Char} {own : Option UInt16}
    (address : Address s shown own) :
    ∃ endpoint, ofTrimmed defaultPort s = .ok endpoint ∧ endpoint.host.render = shown ∧
      endpoint.port = own.getD defaultPort := by
  cases address with
  | ipv4 ip =>
    have none : socket? ip.render = none := socket?_eq_none fun endpoint socket =>
      List.count_eq_zero.mp (ipv4_plain ip).2 socket.colon
    have found : literal? ip.render = some (.ipv4 ip) := literal?_eq_some.mpr (.inl ⟨ip, rfl, rfl⟩)
    refine ⟨⟨.ipv4 ip, defaultPort⟩, ?_, rfl, rfl⟩
    simp only [ofTrimmed, none, found]
  | @ipv4Port ip port p isPort =>
    have found := socket?_eq_some.mpr (.ipv4 ip isPort)
    refine ⟨⟨.ipv4 ip, port⟩, ?_, rfl, rfl⟩
    simp only [ofTrimmed, found]
  | @ipv6 ip _ c spells canonical =>
    have none : socket? s = none := socket?_eq_none fun endpoint socket => by
      have plain := spells_plain spells
      rcases socket.shape with ⟨-, one⟩ | ⟨bracket, -⟩
      · omega
      · exact plain.1 bracket
    have found : literal? s = some (.ipv6 ip 0) := literal?_eq_some.mpr (.inr ⟨ip, spells, rfl⟩)
    refine ⟨⟨.ipv6 ip 0, defaultPort⟩, ?_, ?_, rfl⟩
    · simp only [ofTrimmed, none, found]
    · rw [render_unscoped, Ipv6.canonical_iff.mp canonical]
  | @bracketed ip t c spells canonical =>
    have none : socket? ('[' :: t ++ [']']) = none := socket?_eq_none fun endpoint socket => by
      rcases socket.shape with ⟨bracket, -⟩ | ⟨-, last⟩
      · simp at bracket
      · exact last (by rw [List.getLast?_append]; rfl)
    have noLiteral : literal? ('[' :: t ++ [']']) = .none := by
      rw [Option.eq_none_iff_forall_ne_some]
      intro host found
      rcases literal?_eq_some.mp found with ⟨ip, same, -⟩ | ⟨ip, spells, -⟩
      · exact (ipv4_plain ip).1 (same ▸ List.mem_cons_self ..)
      · exact (spells_plain spells).1 (List.mem_cons_self ..)
    have found : bracketed? ('[' :: t ++ [']']) = some t := bracketed?_eq_some.mpr rfl
    refine ⟨⟨.ipv6 ip 0, defaultPort⟩, ?_, ?_, rfl⟩
    · simp only [ofTrimmed, none, noLiteral, found, Ipv6.whole_eq_some.mpr spells]
    · rw [render_unscoped, Ipv6.canonical_iff.mp canonical]
  | @ipv6Port ip scope port t c z p spells canonical isScope isPort =>
    have found := socket?_eq_some.mpr (.ipv6 spells isScope isPort)
    refine ⟨⟨.ipv6 ip scope, port⟩, ?_, ?_, rfl⟩
    · simp only [ofTrimmed, found]
    · rw [render_ipv6, Ipv6.canonical_iff.mp canonical]
  | name isHostname => exact ofTrimmed_name defaultPort isHostname
  | namePort isHostname isPort => exact ofTrimmed_namePort defaultPort isHostname isPort

theorem ofTrimmed_error {defaultPort : UInt16} {error : AddressError}
    (refused : ofTrimmed defaultPort s = .error error) :
    (∀ shown own, ¬ Address s shown own) ∧
      (BadPort s ∧ error = .invalidPort (String.ofList s) ∨
        ¬ BadPort s ∧ error = .invalidHost (String.ofList s)) := by
  constructor
  · intro shown own address
    obtain ⟨endpoint, read, -⟩ := ofTrimmed_complete defaultPort address
    cases refused.symm.trans read
  · simp only [ofTrimmed] at refused
    split at refused
    · cases refused
    split at refused
    · cases refused
    split at refused
    · rename_i found
      split at refused
      · cases refused
      · cases refused
        refine .inr ⟨?_, rfl⟩
        rintro ⟨h, p, cut, -, isHostname, -⟩
        obtain rfl := bracketed?_eq_some.mp found
        cases h with
        | nil => exact isHostname.ne_nil rfl
        | cons c h =>
          cases (List.cons.inj cut).1
          exact isHostname.not_mem.2 (List.mem_cons_self ..)
    · exact named_error refused

end Branches

end Endpoint

end ChainFollower
