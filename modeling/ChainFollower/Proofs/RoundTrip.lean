import ChainFollower.Chain
import ChainFollower.Config
import ChainFollower.Proofs.Records

/-!
The configuration and the values of the chain in JSON: what is written is read again, and so is any
object that gives the same fields. A configuration that was read is checked before it is handed on.
-/

namespace ChainFollower

open Json

namespace Bytes

theorem toList_loop (bytes : ByteArray) (i : Nat) (taken : List UInt8) :
    ByteArray.toList.loop bytes i taken = taken.reverse ++ bytes.data.toList.drop i := by
  induction left : bytes.size - i generalizing i taken with
  | zero =>
    have all : bytes.data.toList.length ≤ i := by
      simp only [Array.length_toList]
      change bytes.size ≤ i
      omega
    rw [ByteArray.toList.loop, if_neg (by omega), List.drop_eq_nil_of_le all, List.append_nil]
  | succ n ih =>
    have more : i < bytes.size := by omega
    have inside : i < bytes.data.toList.length := by simpa using more
    have byte : bytes.get! i = bytes.data.toList[i] := by
      cases bytes with
      | mk data =>
        change data[i]! = data[i]
        exact getElem!_pos data i more
    rw [ByteArray.toList.loop, if_pos more, ih _ _ (by omega), List.drop_eq_getElem_cons inside, byte]
    simp

/-- The bytes of a text are read as the text. -/
theorem toString?_ofString (s : String) : toString? (ofString s) = some s := by
  have bytes : ByteArray.mk (ofString s).toArray = s.toByteArray := by
    simp [ofString, String.toUTF8, ByteArray.toList, toList_loop]
  rw [toString?, bytes, String.fromUTF8?, dif_pos s.isValidUTF8]
  rfl

end Bytes

section Numbers

variable {w rest : List Char}

theorem readPort_append (spaces : IsSpaces w) (ends : Ends rest) (port : UInt16) :
    Network.Draft.readPort (w ++ (writeNatural port.toNat ++ rest)) = .ok (port, rest) := by
  have small := port.toNat_lt
  have read : readInteger 0 65535 "u16" (w ++ (writeNatural port.toNat ++ rest)) =
      .ok ((port.toNat : Int), rest) :=
    readInteger_writeNatural (by omega) (by simp only [maxSignificand]; omega) spaces ends "u16"
  simp [Network.Draft.readPort, read, Except.map]

theorem readHeight_append (spaces : IsSpaces w) (ends : Ends rest) (height : Height) :
    readHeight (w ++ (writeInteger height.toInt ++ rest)) = .ok (height, rest) := by
  have least := height.le_toInt
  have most := height.toInt_lt
  have read : readInteger (-2147483648) 2147483647 "i32" (w ++ (writeInteger height.toInt ++ rest)) =
      .ok (height.toInt, rest) :=
    readInteger_writeInteger least (Int.le_sub_one_of_lt most) (by simp only [signBit]; omega)
      (by simp only [maxSignificand]; omega) spaces ends "i32"
  simp [readHeight, read, Except.map]

theorem readTimestamp_append (spaces : IsSpaces w) (ends : Ends rest) (timestamp : Int64) :
    readTimestamp (w ++ (writeInteger timestamp.toInt ++ rest)) = .ok (timestamp, rest) := by
  have least := timestamp.le_toInt
  have most := timestamp.toInt_lt
  have read : readInteger (-9223372036854775808) 9223372036854775807 "i64"
      (w ++ (writeInteger timestamp.toInt ++ rest)) = .ok (timestamp.toInt, rest) :=
    readInteger_writeInteger least (Int.le_sub_one_of_lt most) (by simp only [signBit]; omega)
      (by simp only [maxSignificand]; omega) spaces ends "i64"
  simp [readTimestamp, read, Except.map]

theorem readCapacity_append (spaces : IsSpaces w) (ends : Ends rest) (capacity : UInt64) :
    readInteger 0 18446744073709551615 "usize" (w ++ (writeNatural capacity.toNat ++ rest)) =
      .ok ((capacity.toNat : Int), rest) := by
  have small := capacity.toNat_lt
  exact readInteger_writeNatural (by omega) (by simp only [maxSignificand]; omega) spaces ends "usize"

end Numbers

namespace Network

def Tells (network : Network) (name : String) (value : List Char) : Prop :=
  (name = "name" → Quotes network.name value) ∧
  (name = "default_port" → value = writeNatural network.peerPort.toNat) ∧
  (name = "rpc_client_port" → value = writeNatural network.rpcPort.toNat)

def drafted (network : Network) (given : List String) : Draft :=
  ⟨kept "name" given network.name, kept "default_port" given network.peerPort,
    kept "rpc_client_port" given network.rpcPort⟩

theorem collects (network : Network) : Draft.shape.Collects network.Tells network.drafted where
  start := by
    simp [drafted, Draft.shape, Draft.empty]
  absent := by
    intro field among given fresh
    simp only [Draft.shape, List.mem_cons, List.not_mem_nil, or_false] at among
    rcases among with rfl | rfl | rfl <;> simpa [drafted] using fresh
  read := by
    intro field among given value ⟨name, peerPort, rpcPort⟩ w rest spaces ends
    simp only [Draft.shape, List.mem_cons, List.not_mem_nil, or_false] at among
    rcases among with rfl | rfl | rfl
    · simp [readText_quotes (name rfl) spaces, Except.map, drafted, kept_concat]
    · simp [peerPort, readPort_append spaces ends, Except.map, drafted, kept_concat]
    · simp [rpcPort, readPort_append spaces ends, Except.map, drafted, kept_concat]

def Stands (network : Network) : List Char → Prop :=
  Complete Draft.shape.names network.Tells

theorem stands_write (network : Network) : network.Stands network.write := by
  have distinct : Draft.shape.names.Nodup := by decide
  apply (gives_all_writeObject distinct rfl _).complete
  simp [Tells, quotes_writeString]

theorem read_stands {network : Network} {s w : List Char} (stands : network.Stands s)
    (spaces : IsSpaces w) (rest : List Char) : read (w ++ (s ++ rest)) = .ok (network, rest) := by
  apply readRecord_complete network.collects _ stands spaces
  intro given all
  simp only [Draft.shape, Shape.names, List.map_cons, List.map_nil, List.forall_mem_cons] at all
  simp [Draft.shape, drafted, all]

end Network

namespace ChainTip

def Tells (tip : ChainTip) (name : String) (value : List Char) : Prop :=
  (name = "hash" → Quotes tip.hash value) ∧
  (name = "height" → value = writeInteger tip.height.toInt)

def drafted (tip : ChainTip) (given : List String) : Draft :=
  ⟨kept "hash" given tip.hash, kept "height" given tip.height⟩

theorem collects (tip : ChainTip) : shape.Collects tip.Tells tip.drafted where
  start := by
    simp [drafted, shape]
  absent := by
    intro field among given fresh
    simp only [shape, List.mem_cons, List.not_mem_nil, or_false] at among
    rcases among with rfl | rfl <;> simpa [drafted] using fresh
  read := by
    intro field among given value ⟨hash, height⟩ w rest spaces ends
    simp only [shape, List.mem_cons, List.not_mem_nil, or_false] at among
    rcases among with rfl | rfl
    · simp [readText_quotes (hash rfl) spaces, Except.map, drafted, kept_concat]
    · simp [height, readHeight_append spaces ends, Except.map, drafted, kept_concat]

def Stands (tip : ChainTip) : List Char → Prop :=
  Complete shape.names tip.Tells

theorem stands_write (tip : ChainTip) : tip.Stands tip.write := by
  have distinct : shape.names.Nodup := by decide
  apply (gives_all_writeObject distinct rfl _).complete
  simp [Tells, quotes_writeString]

theorem read_stands {tip : ChainTip} {s w : List Char} (stands : tip.Stands s) (spaces : IsSpaces w)
    (rest : List Char) : read (w ++ (s ++ rest)) = .ok (tip, rest) := by
  apply readRecord_complete tip.collects _ stands spaces
  intro given all
  simp only [shape, Shape.names, List.map_cons, List.map_nil, List.forall_mem_cons] at all
  simp [shape, drafted, all]

end ChainTip

namespace BlockInfo

def Tells (block : BlockInfo) (name : String) (value : List Char) : Prop :=
  (name = "hash" → Quotes block.hash value) ∧
  (name = "height" → value = writeInteger block.height.toInt) ∧
  (name = "timestamp" → value = writeInteger block.timestamp.toInt)

def drafted (block : BlockInfo) (given : List String) : Draft :=
  ⟨kept "hash" given block.hash, kept "height" given block.height,
    kept "timestamp" given block.timestamp⟩

theorem collects (block : BlockInfo) : shape.Collects block.Tells block.drafted where
  start := by
    simp [drafted, shape]
  absent := by
    intro field among given fresh
    simp only [shape, List.mem_cons, List.not_mem_nil, or_false] at among
    rcases among with rfl | rfl | rfl <;> simpa [drafted] using fresh
  read := by
    intro field among given value ⟨hash, height, timestamp⟩ w rest spaces ends
    simp only [shape, List.mem_cons, List.not_mem_nil, or_false] at among
    rcases among with rfl | rfl | rfl
    · simp [readText_quotes (hash rfl) spaces, Except.map, drafted, kept_concat]
    · simp [height, readHeight_append spaces ends, Except.map, drafted, kept_concat]
    · simp [timestamp, readTimestamp_append spaces ends, Except.map, drafted, kept_concat]

def Stands (block : BlockInfo) : List Char → Prop :=
  Complete shape.names block.Tells

theorem stands_write (block : BlockInfo) : block.Stands block.write := by
  have distinct : shape.names.Nodup := by decide
  apply (gives_all_writeObject distinct rfl _).complete
  simp [Tells, quotes_writeString]

theorem read_stands {block : BlockInfo} {s w : List Char} (stands : block.Stands s)
    (spaces : IsSpaces w) (rest : List Char) : read (w ++ (s ++ rest)) = .ok (block, rest) := by
  apply readRecord_complete block.collects _ stands spaces
  intro given all
  simp only [shape, Shape.names, List.map_cons, List.map_nil, List.forall_mem_cons] at all
  simp [shape, drafted, all]

end BlockInfo

namespace Config

def Tells (config : Config) (name : String) (value : List Char) : Prop :=
  (name = "data_dir" → Quotes config.dataDir value) ∧
  (name = "network" → config.network.Stands value) ∧
  (name = "rescan_channel_capacity" → value = writeNatural config.rescanCapacity.toNat)

def drafted (config : Config) (given : List String) : Draft :=
  ⟨kept "data_dir" given config.dataDir, kept "network" given config.network,
    kept "rescan_channel_capacity" given config.rescanCapacity⟩

theorem collects (config : Config) : shape.Collects config.Tells config.drafted where
  start := by
    simp [drafted, shape]
  absent := by
    intro field among given fresh
    simp only [shape, List.mem_cons, List.not_mem_nil, or_false] at among
    rcases among with rfl | rfl | rfl <;> simpa [drafted] using fresh
  read := by
    intro field among given value ⟨dataDir, network, capacity⟩ w rest spaces ends
    simp only [shape, List.mem_cons, List.not_mem_nil, or_false] at among
    rcases among with rfl | rfl | rfl
    · simp [readText_quotes (dataDir rfl) spaces, Except.map, drafted, kept_concat]
    · simp [Network.read_stands (network rfl) spaces, Except.map, drafted, kept_concat]
    · simp [capacity, readCapacity_append spaces ends, Except.map, drafted, kept_concat]

def keeping (config : Config) (given : List String) : Config where
  dataDir := if "data_dir" ∈ given then config.dataDir else standard.dataDir
  network := if "network" ∈ given then config.network else standard.network
  rescanCapacity :=
    if "rescan_channel_capacity" ∈ given then config.rescanCapacity else standard.rescanCapacity

theorem finish_drafted (config : Config) (given : List String) :
    shape.finish (config.drafted given) = .ok (config.keeping given) := by
  simp only [shape, drafted, keeping, kept]
  split_ifs <;> rfl

/-- The text is an object that gives these fields of the configuration, with other members or without,
and with any space around it. -/
def Shown (config : Config) (given : List String) : List Char → Prop :=
  Alone (Gives shape.names config.Tells given)

theorem shown_write (config : Config) : config.Shown shape.names config.write := by
  have distinct : shape.names.Nodup := by decide
  apply alone_of
  apply gives_all_writeObject distinct rfl
  simp [Tells, quotes_writeString, Network.stands_write]

def File.ofText (text : List Char) : File :=
  .content (Bytes.ofString (String.ofList text))

theorem load_ofText (text : List Char) : load (.ofText text) = ofText (String.ofList text) := by
  simp [load, File.ofText, Bytes.toString?_ofString]

/-- What is loaded is what the text gives, if it passes the check. -/
theorem load_shown {config : Config} {given : List String} {text : List Char}
    (shown : config.Shown given text) : load (.ofText text) =
      (config.keeping given).validate.map fun _ => config.keeping given := by
  have read : readWhole read (String.ofList text) = .ok (config.keeping given) := by
    apply readWhole_alone _ shown
    intro s w gives spaces rest
    rw [Config.read, readRecord_gives config.collects gives spaces, finish_drafted]
    rfl
  rw [load_ofText, ofText, read, validate]
  cases found : (config.keeping given).problem? <;> simp [found, Except.map]

theorem keeping_names (config : Config) : config.keeping shape.names = config := by
  simp [keeping, shape, Shape.names]

end Config

/-- A configuration that is written and loaded is the same one, or the problem is reported that a check
of it finds; fields that are left out have their standard values, and other members, the order of all
members and space between them change nothing. Networks, tips and blocks that are written and read are
the same ones. -/
theorem forms_round_trip :
    (∀ config : Config, Config.load (.ofText config.write) = config.validate.map fun _ => config) ∧
    (∀ (config : Config) (given : List String) (text : List Char), config.Shown given text →
      Config.load (.ofText text) = Config.load (.ofText (config.keeping given).write)) ∧
    (∀ network : Network,
      readWhole Network.read (String.ofList network.write) = .ok network ∧
      ∀ text, Alone network.Stands text → readWhole Network.read (String.ofList text) = .ok network) ∧
    (∀ tip : ChainTip,
      readWhole ChainTip.read (String.ofList tip.write) = .ok tip ∧
      ∀ text, Alone tip.Stands text → readWhole ChainTip.read (String.ofList text) = .ok tip) ∧
    ∀ block : BlockInfo,
      readWhole BlockInfo.read (String.ofList block.write) = .ok block ∧
      ∀ text, Alone block.Stands text → readWhole BlockInfo.read (String.ofList text) = .ok block := by
  have written (config : Config) :
      Config.load (.ofText config.write) = config.validate.map fun _ => config := by
    have loaded := Config.load_shown config.shown_write
    rwa [config.keeping_names] at loaded
  refine ⟨written, ?_, ?_, ?_, ?_⟩
  · intro config given text shown
    rw [written, Config.load_shown shown]
  · intro network
    have reads (text : List Char) (alone : Alone network.Stands text) :=
      readWhole_alone Network.read_stands alone
    exact ⟨reads _ (alone_of network.stands_write), reads⟩
  · intro tip
    have reads (text : List Char) (alone : Alone tip.Stands text) :=
      readWhole_alone ChainTip.read_stands alone
    exact ⟨reads _ (alone_of tip.stands_write), reads⟩
  · intro block
    have reads (text : List Char) (alone : Alone block.Stands text) :=
      readWhole_alone BlockInfo.read_stands alone
    exact ⟨reads _ (alone_of block.stands_write), reads⟩

/-- The network is left out, the other two fields have changed places, the directory has an escape,
and there is a member that nobody knows. -/
theorem forms_round_trip_partial :
    let config : Config := ⟨"Ab", Network.simnet, 7⟩
    let text := "\x7b\"later\":[1, \x7b\x7d],\"rescan_channel_capacity\":7,\"data_dir\":\"\\u0041b\"\x7d"
    config.Shown ["rescan_channel_capacity", "data_dir"] text.toList ∧
      Config.load (.ofText text.toList) = .ok ⟨"Ab", Network.mainnet, 7⟩ := by
  intro config text
  let later := ("later", "[1, \x7b\x7d]".toList)
  let capacity := ("rescan_channel_capacity", "7".toList)
  let directory := ("data_dir", "\"\\u0041b\"".toList)
  have digit : IsWhole ['1'] := .inr ⟨⟨by simp, by simp [Text.isDigit]⟩, by simp⟩
  have one : IsValue ['1'] :=
    .scalar (.number (.inl ⟨['1'], [], [], digit, .inl rfl, .inl rfl, rfl⟩))
  have empty : Bracket.object.Holds Bracket.object.Item [] ['\x7b', '\x7d'] :=
    ⟨[], .inl ⟨rfl, isSpaces_nil⟩, rfl⟩
  have items : Joined Bracket.list.Item [([], ['1']), ([], ['\x7b', '\x7d'])]
      (['1'] ++ ',' :: [' ', '\x7b', '\x7d']) :=
    .cons ⟨rfl, [], [], isSpaces_nil, isSpaces_nil, rfl⟩
      (.single ⟨rfl, [' '], [], by simp [IsSpaces, isSpace], isSpaces_nil, rfl⟩)
  have both : Bracket.list.Holds Bracket.list.Item _ later.2 := ⟨_, .inr items, rfl⟩
  have list : IsValue later.2 := .bracketed both (by simp [one, IsValue.bracketed empty])
  have escaped : unit? '0' '0' '4' '1' = some 65 := by decide
  have named : Quotes "Ab" directory.2 :=
    ⟨_, (means_escaped ['b']).unit escaped (by simp [IsHalf]), rfl⟩
  have written : capacity.2 = writeNatural config.rescanCapacity.toNat := by decide +kernel
  have shown : config.Shown ["rescan_channel_capacity", "data_dir"] text.toList := by
    have same : text.toList = writeObject [later, capacity, directory] := by decide +kernel
    have order : known Config.shape.names [later, capacity, directory] =
        ["rescan_channel_capacity", "data_dir"] := by decide
    rw [same, ← order]
    apply alone_of
    apply gives_writeObject (by decide)
    simpa [Fits, later, capacity, directory, Config.shape, Shape.names, Config.Tells] using
      And.intro list (And.intro written named)
  obtain ⟨whole, some, -⟩ := forms_round_trip
  refine ⟨shown, ?_⟩
  rw [some config _ _ shown, whole]
  rfl

end ChainFollower
