import ChainFollower.Follower.Calls

/-!
The best block that the wallet knows.
-/

namespace ChainFollower.Follower

/-- The height of the tip, 0 without a wallet. -/
def bestHeight (f : Follower) : Height :=
  if f.loader.loaded then f.wallet.tip.height else 0

/-- The time of the tip, 0 without a wallet or if it is not known. -/
def bestTimestamp : Act Int64 := do
  let f ← get
  if f.loader.loaded then
    match ← blockInfo f.wallet.tip.height with
    | .ok block =>
      Act.update (fun f => f.log (.bestBlock block))
      pure block.timestamp
    | .error e =>
      Act.update (fun f => f.log (.bestBlockFailed e))
      pure 0
  else pure 0

end ChainFollower.Follower
