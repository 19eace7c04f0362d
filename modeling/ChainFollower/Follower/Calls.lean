import ChainFollower.Follower

/-!
Calls of the collaborators. A call is recorded, then a fault at its place takes effect, then it does
what it is for. A panic ends the caller too; whatever was done before it stays done.
-/

namespace ChainFollower

/-- Work on a follower that a failure or a panic may end. -/
abbrev Act (α : Type) := ExceptT Stop (StateM Follower) α

namespace Act

def update (change : Follower → Follower) : Act Unit :=
  modify change

def fail {α : Type} (e : SyncError) : Act α :=
  throw (.failed e)

/-- The fault at a place: an error is given back, a panic takes effect. -/
def fault (place : Place) : Act (Option WalletError) := do
  match (← get).fault? place with
  | some (.panic text) => throw (.panicked text)
  | some (.error e) => pure (some e)
  | none => pure none

/-- A fault at a place whose call returns no errors. -/
def panicAt (place : Place) : Act Unit := do
  let _ ← fault place

end Act

namespace Follower

def setWalletLink (link : Option Link) : Act Unit := do
  Act.update (fun f => f.saw (.walletBackend link f.session.state))
  Act.panicAt .walletBackend
  Act.update (fun f => f.setLink link)

def setLoaderLink (link : Option Link) : Act Unit := do
  Act.update (fun f => f.saw (.loaderBackend link f.session.state))
  Act.panicAt .loaderBackend
  Act.update (fun f => { f with loader := { f.loader with link := link } })

def walletExists : Act (Except WalletError Bool) := do
  match ← Act.fault .walletExists with
  | some e => pure (.error e)
  | none => pure (.ok (← get).loader.walletExists)

def createWallet (publicPass privatePass seed : Bytes) : Act (Except WalletError Unit) := do
  Act.update (fun f => f.saw (.create publicPass privatePass seed))
  match ← Act.fault .create with
  | some e => pure (.error e)
  | none =>
    if (← get).loader.walletExists then pure (.error .alreadyExists)
    else
      Act.update (fun f => { f with
        loader := { f.loader with walletExists := true, loaded := true }
        wallet := { f.wallet with publicPass := publicPass, privatePass := privatePass } })
      pure (.ok ())

/-- Loads the wallet, if the public passphrase is its own. -/
def openWallet (publicPass : Bytes) : Act (Except WalletError Unit) := do
  Act.update (fun f => f.saw (.openWallet publicPass))
  match ← Act.fault .openWallet with
  | some e => pure (.error e)
  | none =>
    let f ← get
    if !f.loader.walletExists then pure (.error .notExist)
    else if f.wallet.publicPass ≠ publicPass then pure (.error .invalidPassphrase)
    else
      Act.update (fun f => { f with loader := { f.loader with loaded := true } })
      pure (.ok ())

def unloadWallet : Act (Except WalletError Unit) := do
  Act.update (fun f => f.saw .unload)
  match ← Act.fault .unload with
  | some e => pure (.error e)
  | none =>
    Act.update (fun f => { f with loader := { f.loader with loaded := false } })
    pure (.ok ())

def unlockWallet (passphrase : Bytes) : Act (Except WalletError Unit) := do
  Act.update (fun f => f.saw (.unlock passphrase))
  match ← Act.fault .unlock with
  | some e => pure (.error e)
  | none =>
    if (← get).wallet.privatePass ≠ passphrase then pure (.error .invalidPassphrase)
    else
      Act.update (fun f => { f with wallet := { f.wallet with locked := false } })
      pure (.ok ())

def changePrivate (old new : Bytes) : Act (Except WalletError Unit) := do
  Act.update (fun f => f.saw (.changePrivate old new))
  match ← Act.fault .changePrivate with
  | some e => pure (.error e)
  | none =>
    if (← get).wallet.privatePass ≠ old then pure (.error .invalidPassphrase)
    else
      Act.update (fun f => { f with wallet := { f.wallet with privatePass := new } })
      pure (.ok ())

def changePublic (old new : Bytes) : Act (Except WalletError Unit) := do
  Act.update (fun f => f.saw (.changePublic old new))
  match ← Act.fault .changePublic with
  | some e => pure (.error e)
  | none =>
    if (← get).wallet.publicPass ≠ old then pure (.error .invalidPassphrase)
    else
      Act.update (fun f => { f with wallet := { f.wallet with publicPass := new } })
      pure (.ok ())

def blockInfo (height : Height) : Act (Except WalletError BlockInfo) := do
  Act.update (fun f => f.saw (.blockInfo height))
  match ← Act.fault .blockInfo with
  | some e => pure (.error e)
  | none =>
    let f ← get
    match f.wallet.blockTime with
    | some time => pure (.ok ⟨f.wallet.tip.hash, height, time⟩)
    | none => pure (.error (.other ("block " ++ toString height.toInt ++ " not found")))

def nextAddress : Act (Except WalletError String) := do
  match ← Act.fault .nextAddress with
  | some e => pure (.error e)
  | none =>
    let number := (← get).wallet.addresses
    Act.update (fun f => { f with wallet := { f.wallet with addresses := number + 1 } })
    pure (.ok ("Ts0addr" ++ toString number))

/-- Whether the wallet takes an address for its own. -/
def ownsAddress (address : String) : Bool :=
  ['T', 's'].isPrefixOf address.toList

/-- Opens a transaction index with an address of the wallet in it, and gives back its number. -/
def initIndex (path : String) : Act (Except WalletError Nat) := do
  Act.update (fun f => f.saw (.indexInit path))
  match ← Act.fault .indexInit with
  | some e => pure (.error e)
  | none =>
    match ← nextAddress with
    | .error e => pure (.error e)
    | .ok address =>
      Act.update (fun f => f.saw (.indexAddress address (ownsAddress address)))
      let number := (← get).counts.indexes
      Act.update (fun f => { f with
        indexBound := true, counts := { f.counts with indexes := number + 1 } })
      pure (.ok number)

def closeIndex (number : Nat) : Act (Except WalletError Unit) := do
  Act.update (fun f => f.saw (.indexClose number))
  match ← Act.fault .indexClose with
  | some e => pure (.error e)
  | none => pure (.ok ())

def makeSpvSyncer : Act Nat := do
  let number := (← get).counts.spvSyncers + 1
  Act.update (fun f => { f with counts := { f.counts with spvSyncers := number } })
  Act.update (fun f => f.saw (.spvSyncer ⟨.spv, number⟩ f.config.network.name))
  Act.panicAt .spvSyncer
  Act.update (fun f => { f with syncers := (⟨.spv, number⟩, f.scripts.spvRun) :: f.syncers })
  pure number

def makeClient (params : ServerParams) : Act (Except WalletError Client) := do
  Act.update (fun f => f.saw (.rpcClient params))
  match ← Act.fault .rpcClient with
  | some e => pure (.error e)
  | none =>
    let client : Client := ⟨(← get).counts.clients + 1⟩
    Act.update (fun f => { f with
      counts := { f.counts with clients := client.number }
      clients := (client, f.scripts.rpcConnect) :: f.clients })
    pure (.ok client)

def makeRpcSyncer (client : Client) : Act Nat := do
  let number := (← get).counts.rpcSyncers + 1
  Act.update (fun f => { f with counts := { f.counts with rpcSyncers := number } })
  Act.update (fun f => f.saw (.rpcSyncer ⟨.rpc, number⟩ client))
  Act.panicAt .rpcSyncer
  Act.update (fun f => { f with syncers := (⟨.rpc, number⟩, f.scripts.rpcRun) :: f.syncers })
  pure number

/-- What a client's connection comes to, if that is known yet. -/
def connectReply? (f : Follower) (client : Client) (attempt : Nat) : Option (Reply ConnectError) :=
  match f.clients.lookup client with
  | some gate => gate.reply? (f.isCancelled (.start attempt))
  | none => none

def runReply? (f : Follower) (syncer : Syncer) (attempt : Nat) : Option (Reply RunError) :=
  match f.syncers.lookup syncer with
  | some script => script.gate.reply? (f.isCancelled (.start attempt))
  | none => none

end Follower

end ChainFollower
