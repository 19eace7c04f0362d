import Mathlib.Data.List.Forall2
import ChainFollower.Backend.Config
import ChainFollower.Proofs.Cutting

/-!
The entries of a text of peers. Joining entries with semicolons and cutting the text again gives them
back, whatever white space and blank entries are put in between.
-/

namespace ChainFollower

/-- Semicolons divide the text into pieces, and these are the pieces freed of white space at their
ends, but for those of which nothing is left. -/
def PeerEntries (text : String) (entries : List String) : Prop :=
  ∃ pieces trimmed : List (List Char), pieces ≠ [] ∧ text.toList = [';'].intercalate pieces ∧
    (∀ piece ∈ pieces, ';' ∉ piece) ∧ List.Forall₂ Text.Trimmed pieces trimmed ∧
    entries = (trimmed.filter (· ≠ [])).map String.ofList

theorem forall₂_trimmed {pieces trimmed : List (List Char)} :
    List.Forall₂ Text.Trimmed pieces trimmed ↔ trimmed = pieces.map Text.trim := by
  have same : Text.Trimmed = fun piece rest => Text.trim piece = rest := by
    funext piece rest
    exact propext (Text.trimmed_iff.trans eq_comm)
  rw [same, ← List.forall₂_map_left_iff (R := Eq), List.forall₂_eq_eq_eq, eq_comm]

theorem peerEntries_iff {text : String} {entries : List String} :
    PeerEntries text entries ↔ entries = BackendConfig.peersOf text := by
  have cut := Text.splitWhen_eq_splitOn ';' text.toList
  have blank : (fun piece : List Char => decide (piece ≠ [])) = fun piece => !piece.isEmpty := by
    funext piece
    cases piece <;> rfl
  rw [BackendConfig.peersOf, cut]
  constructor
  · rintro ⟨pieces, trimmed, some, joined, apart, all, rfl⟩
    rw [joined, List.splitOn_intercalate _ apart some, forall₂_trimmed.mp all, blank]
  · rintro rfl
    refine ⟨text.toList.splitOn ';', _, List.splitOn_ne_nil _ _, ?_, ?_, forall₂_trimmed.mpr rfl, ?_⟩
    · exact (List.intercalate_splitOn _).symm
    · intro piece member cuts
      rw [← cut] at member
      cases Text.uncut_of_mem_splitWhen member ';' cuts
    · rw [blank]

structure IsPeer (peer : String) : Prop where
  some : peer.toList ≠ []
  uncut : ';' ∉ peer.toList
  starts : Text.Stops Text.isBlank peer.toList
  ends : Text.Stops Text.isBlank peer.toList.reverse

/-- The pieces list the peers: each has a piece to itself, with any white space around it, and any of
the other pieces is white space. -/
inductive Lists : List String → List (List Char) → Prop where
  | done : Lists [] []
  | blank {piece : List Char} {peers : List String} {pieces : List (List Char)}
      (blank : ∀ c ∈ piece, Text.isBlank c = true) (rest : Lists peers pieces) :
      Lists peers (piece :: pieces)
  | peer {peer : String} {front back : List Char} {peers : List String}
      {pieces : List (List Char)} (is : IsPeer peer) (fronted : ∀ c ∈ front, Text.isBlank c = true)
      (backed : ∀ c ∈ back, Text.isBlank c = true) (rest : Lists peers pieces) :
      Lists (peer :: peers) ((front ++ peer.toList ++ back) :: pieces)

namespace BackendConfig

def entriesOf (pieces : List (List Char)) : List String :=
  ((pieces.map Text.trim).filter (fun peer => !peer.isEmpty)).map String.ofList

theorem peersOf_eq (text : String) :
    peersOf text = entriesOf (Text.splitWhen (· == ';') text.toList) := rfl

theorem entriesOf_append (pieces others : List (List Char)) :
    entriesOf (pieces ++ others) = entriesOf pieces ++ entriesOf others := by
  simp [entriesOf]

theorem entriesOf_blank {piece : List Char} (blank : ∀ c ∈ piece, Text.isBlank c = true)
    (pieces : List (List Char)) : entriesOf (piece :: pieces) = entriesOf pieces := by
  have nothing : Text.trim piece = [] :=
    Text.Trimmed.trim_eq ⟨piece, [], by simp, blank, by simp, by simp [Text.Stops],
      by simp [Text.Stops]⟩
  simp [entriesOf, nothing]

theorem entriesOf_peer {peer : String} {front back : List Char} (is : IsPeer peer)
    (fronted : ∀ c ∈ front, Text.isBlank c = true) (backed : ∀ c ∈ back, Text.isBlank c = true)
    (pieces : List (List Char)) :
    entriesOf ((front ++ peer.toList ++ back) :: pieces) = peer :: entriesOf pieces := by
  have trimmed : Text.trim (front ++ peer.toList ++ back) = peer.toList :=
    Text.Trimmed.trim_eq ⟨front, back, rfl, fronted, backed, is.starts, is.ends⟩
  simp only [entriesOf, List.map_cons, trimmed]
  rw [List.filter_cons_of_pos (by simpa using is.some), List.map_cons, String.ofList_toList]

theorem entriesOf_lists {peers : List String} {pieces : List (List Char)}
    (lists : Lists peers pieces) : entriesOf pieces = peers := by
  induction lists with
  | done => rfl
  | blank blank rest ih => rw [entriesOf_blank blank, ih]
  | peer is fronted backed rest ih => rw [entriesOf_peer is fronted backed, ih]

theorem ne_semicolon_of_isBlank {s : List Char} (blank : ∀ c ∈ s, Text.isBlank c = true) :
    ';' ∉ s := by
  intro cuts
  have other : Text.isBlank ';' = false := by decide
  rw [blank ';' cuts] at other
  contradiction

theorem uncut_of_lists {peers : List String} {pieces : List (List Char)}
    (lists : Lists peers pieces) : ∀ piece ∈ pieces, ';' ∉ piece := by
  induction lists with
  | done => simp
  | blank blank rest ih => exact List.forall_mem_cons.mpr ⟨ne_semicolon_of_isBlank blank, ih⟩
  | peer is fronted backed rest ih =>
    refine List.forall_mem_cons.mpr ⟨?_, ih⟩
    simp [ne_semicolon_of_isBlank fronted, is.uncut, ne_semicolon_of_isBlank backed]

theorem peersOf_joined {peers : List String} {pieces : List (List Char)}
    (lists : Lists peers pieces) : peersOf (String.ofList ([';'].intercalate pieces)) = peers := by
  rw [peersOf_eq, String.toList_ofList, Text.splitWhen_eq_splitOn]
  by_cases some : pieces = []
  · -- The empty text has one piece, which is blank.
    subst some
    cases lists
    rfl
  · rw [List.splitOn_intercalate ';' (uncut_of_lists lists) some, entriesOf_lists lists]

theorem peersOf_append (s t : String) : peersOf (s ++ ";" ++ t) = peersOf s ++ peersOf t := by
  have joined : (s ++ ";" ++ t).toList = s.toList ++ ';' :: t.toList := by simp
  rw [peersOf_eq, joined, Text.splitWhen_append_cons (by decide), entriesOf_append]
  rfl

theorem isPeer_of_mem {text peer : String} (member : peer ∈ peersOf text) : IsPeer peer := by
  simp only [peersOf, List.mem_map, List.mem_filter] at member
  obtain ⟨trimmed, ⟨⟨piece, among, rfl⟩, some⟩, rfl⟩ := member
  obtain ⟨front, back, whole, -, -, starts, ends⟩ := Text.trimmed_trim piece
  rw [← String.toList_ofList (l := Text.trim piece)] at starts ends
  refine ⟨by simpa using some, fun cuts => ?_, starts, ends⟩
  have inside : ';' ∈ piece := by
    rw [whole]
    rw [String.toList_ofList] at cuts
    simp [cuts]
  cases Text.uncut_of_mem_splitWhen among ';' inside

/-- Peers with nothing around them list themselves. -/
theorem lists_plain {peers : List String} (all : ∀ peer ∈ peers, IsPeer peer) :
    Lists peers (peers.map String.toList) := by
  induction peers with
  | nil => exact .done
  | cons peer peers ih =>
    obtain ⟨is, others⟩ := List.forall_mem_cons.mp all
    have first : Lists (peer :: peers) (([] ++ peer.toList ++ []) :: peers.map String.toList) :=
      .peer is (by simp) (by simp) (ih others)
    simpa using first

/-- Texts and lists of peers go together: a semicolon between two texts joins their peers, all that
comes out is a peer, any text that lists peers gives just these, and so does the plain text that lists
the peers of a text. -/
theorem peer_texts (s t : String) {peers : List String} {pieces : List (List Char)}
    (lists : Lists peers pieces) :
    ofPeerText (s ++ ";" ++ t) = .spv (peersOf s ++ peersOf t) ∧
      (∀ peer ∈ peersOf s, IsPeer peer) ∧
      ofPeerText (String.ofList ([';'].intercalate pieces)) = .spv peers ∧
      ofPeerText (String.intercalate ";" (peersOf s)) = ofPeerText s := by
  refine ⟨congrArg spv (peersOf_append s t), fun peer => isPeer_of_mem, ?_, congrArg spv ?_⟩
  · exact congrArg spv (peersOf_joined lists)
  · have again := peersOf_joined (lists_plain fun peer => @isPeer_of_mem s peer)
    have joined : String.ofList ([';'].intercalate ((peersOf s).map String.toList)) =
        String.intercalate ";" (peersOf s) := by
      rw [← String.toList_inj, String.toList_ofList, String.toList_intercalate]
      rfl
    rwa [joined] at again

/-- Two peers, one of them with a blank in it, among blank entries and white space. -/
theorem peer_texts_spaced :
    Lists ["a b", "[::1]:9"] [" ".toList, "\ta b ".toList, [], "[::1]:9".toList] ∧
      ofPeerText " ;\ta b ;;[::1]:9" = .spv ["a b", "[::1]:9"] := by
  have first : IsPeer "a b" :=
    ⟨by decide, by decide, by rintro _ ⟨⟩; decide, by rintro _ ⟨⟩; decide⟩
  have second : IsPeer "[::1]:9" :=
    ⟨by decide, by decide, by rintro _ ⟨⟩; decide, by rintro _ ⟨⟩; decide⟩
  have tab : ∀ c ∈ ['\t'], Text.isBlank c = true := List.forall_mem_singleton.mpr (by decide)
  have space : ∀ c ∈ [' '], Text.isBlank c = true := List.forall_mem_singleton.mpr (by decide)
  have last : Lists ["[::1]:9"] [[] ++ "[::1]:9".toList ++ []] :=
    .peer second (by simp) (by simp) .done
  have both : Lists ["a b", "[::1]:9"]
      [['\t'] ++ "a b".toList ++ [' '], [], [] ++ "[::1]:9".toList ++ []] :=
    .peer first tab space (.blank (by simp) last)
  have lists : Lists ["a b", "[::1]:9"] [" ".toList, "\ta b ".toList, [], "[::1]:9".toList] :=
    .blank space both
  exact ⟨lists, (peer_texts "" "" lists).2.2.1⟩

end BackendConfig

end ChainFollower
