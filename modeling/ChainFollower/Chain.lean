import ChainFollower.Json.Decode
import ChainFollower.Json.Write

/-!
What the wallet knows of the chain: its tip, and blocks with their times.
-/

namespace ChainFollower

abbrev Height := Int32

/-- The last block of the wallet's main chain. -/
structure ChainTip where
  hash : String
  height : Height
  deriving DecidableEq, Repr

structure BlockInfo where
  hash : String
  height : Height
  /-- Seconds since 1970. -/
  timestamp : Int64
  deriving DecidableEq, Repr

def readHeight : Json.Scan Height := fun s =>
  (Json.readInteger (-2147483648) 2147483647 "i32" s).map
    (fun result => (Int32.ofInt result.1, result.2))

def readTimestamp : Json.Scan Int64 := fun s =>
  (Json.readInteger (-9223372036854775808) 9223372036854775807 "i64" s).map
    (fun result => (Int64.ofInt result.1, result.2))

namespace ChainTip

def inspect (tip : ChainTip) : String :=
  "ChainTip \x7b hash: " ++ Text.quote tip.hash ++
    ", height: " ++ toString tip.height.toInt ++ " \x7d"

structure Draft where
  hash : Option String
  height : Option Height

def shape : Json.Shape Draft ChainTip where
  title := "struct ChainTip"
  start := ⟨none, none⟩
  fields := [
    ⟨"hash", fun draft => draft.hash.isSome, fun draft s =>
      (Json.readText "a string" s).map (fun result => ({ draft with hash := result.1 }, result.2))⟩,
    ⟨"height", fun draft => draft.height.isSome, fun draft s =>
      (readHeight s).map (fun result => ({ draft with height := result.1 }, result.2))⟩]
  short := some (fun index => .invalidLength index "struct ChainTip with 2 elements")
  finish draft :=
    match draft.hash, draft.height with
    | none, _ => .error (.missingField "hash")
    | _, none => .error (.missingField "height")
    | some hash, some height => .ok ⟨hash, height⟩

def read : Json.Scan ChainTip :=
  Json.readRecord shape

def write (tip : ChainTip) : List Char :=
  Json.writeObject [
    ("hash", Json.writeString tip.hash),
    ("height", Json.writeInteger tip.height.toInt)]

end ChainTip

namespace BlockInfo

def inspect (block : BlockInfo) : String :=
  "BlockInfo \x7b hash: " ++ Text.quote block.hash ++
    ", height: " ++ toString block.height.toInt ++
    ", timestamp: " ++ toString block.timestamp.toInt ++ " \x7d"

structure Draft where
  hash : Option String
  height : Option Height
  timestamp : Option Int64

def shape : Json.Shape Draft BlockInfo where
  title := "struct BlockInfo"
  start := ⟨none, none, none⟩
  fields := [
    ⟨"hash", fun draft => draft.hash.isSome, fun draft s =>
      (Json.readText "a string" s).map (fun result => ({ draft with hash := result.1 }, result.2))⟩,
    ⟨"height", fun draft => draft.height.isSome, fun draft s =>
      (readHeight s).map (fun result => ({ draft with height := result.1 }, result.2))⟩,
    ⟨"timestamp", fun draft => draft.timestamp.isSome, fun draft s =>
      (readTimestamp s).map (fun result => ({ draft with timestamp := result.1 }, result.2))⟩]
  short := some (fun index => .invalidLength index "struct BlockInfo with 3 elements")
  finish draft :=
    match draft.hash, draft.height, draft.timestamp with
    | none, _, _ => .error (.missingField "hash")
    | _, none, _ => .error (.missingField "height")
    | _, _, none => .error (.missingField "timestamp")
    | some hash, some height, some timestamp => .ok ⟨hash, height, timestamp⟩

def read : Json.Scan BlockInfo :=
  Json.readRecord shape

def write (block : BlockInfo) : List Char :=
  Json.writeObject [
    ("hash", Json.writeString block.hash),
    ("height", Json.writeInteger block.height.toInt),
    ("timestamp", Json.writeInteger block.timestamp.toInt)]

end BlockInfo

end ChainFollower
