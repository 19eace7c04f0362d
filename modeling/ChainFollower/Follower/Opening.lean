import ChainFollower.Follower.Lending
import ChainFollower.Seed.Decode

/-!
Making, opening and closing the wallet, and its passphrases. Buffers that hold a passphrase belong
to the caller and come back wiped, however the call ends.
-/

namespace ChainFollower.Follower

def orFail {α : Type} : Except WalletError α → Act α
  | .ok value => pure value
  | .error e => Act.fail (.ofWallet e)

def requireWallet : Act Unit := do
  if (← get).loader.loaded then pure () else Act.fail .walletNotLoaded

def exists? : Act Bool := do
  orFail (← walletExists)

/-- Makes a wallet from a seed. Its public passphrase is the insecure one. -/
def create (passphrase seed : String) : Act Unit := do
  Act.update (fun f => f.log .creating)
  if seed.isEmpty then Act.fail .emptySeed
  else
    match Seed.decode seed with
    | .error problem =>
      Act.update (fun f => f.log (.seedRejected problem.toError))
      Act.fail problem.toError
    | .ok bytes =>
      match ← createWallet Passphrase.insecurePublic (Bytes.ofString passphrase) bytes with
      | .error e =>
        Act.update (fun f => f.log (.createFailed e))
        Act.fail (.ofWallet e)
      | .ok _ => Act.update (fun f => f.log .created)

def openAll (publicPass : Bytes) : Act Unit := do
  match ← openWallet publicPass with
  | .error e =>
    Act.update (fun f => f.log (.openFailed e))
    Act.fail (.ofWallet e)
  | .ok _ =>
    let path := (← get).config.indexPath
    match ← initIndex path with
    | .error e =>
      Act.update (fun f => f.log (.indexFailed e))
      Act.fail (.txIndex e.message)
    | .ok number =>
      Act.update (fun f => { f with index := some number })
      Act.update (fun f => f.log (.opened path))

/-- What a call comes to, and the buffers that it was lent as it gives them back. -/
structure Wiped where
  call : Except Stop Unit
  buffers : List Bytes

def lending {n : Nat} (buffers : Vector Bytes n) (work : Lending n Unit) (f : Follower) :
    Wiped × Follower :=
  let result := work.run ⟨buffers, f⟩
  (⟨result.1, result.2.buffers.toList⟩, result.2.follower)

def unlock (passphrase : Bytes) : Follower → Wiped × Follower :=
  lending #v[passphrase] (Lending.guarding 0 (do
    Lending.call requireWallet
    let bytes ← Lending.read 0
    Lending.call (do orFail (← unlockWallet bytes))))

/-- Has the wallet put a new passphrase in the place of an old one. -/
def changePass (change : Bytes → Bytes → Act (Except WalletError Unit)) (old new : Bytes) :
    Follower → Wiped × Follower :=
  lending #v[old, new] (Lending.guarding 0 (Lending.guarding 1 (do
    Lending.call requireWallet
    let oldBytes ← Lending.read 0
    let newBytes ← Lending.read 1
    Lending.call (do orFail (← change oldBytes newBytes)))))

def changePrivatePass (old new : Bytes) : Follower → Wiped × Follower :=
  changePass changePrivate old new

/-- Empty passphrases stand for the insecure one. -/
def changePublicPass (old new : Bytes) : Follower → Wiped × Follower :=
  changePass (fun oldBytes newBytes =>
    changePublic (Passphrase.orInsecure oldBytes) (Passphrase.orInsecure newBytes)) old new

def lock (f : Follower) : Follower :=
  if f.loader.loaded && !f.wallet.locked then
    let f := f.saw .lock
    { f with wallet := { f.wallet with locked := true } }.log .locked
  else f

def unlink : Act Unit := do
  if (← get).loader.loaded then setWalletLink none
  setLoaderLink none

/-- Closes the index that is held, if any; a failure of that is only logged. -/
def dropIndex : Act Unit := do
  match (← get).index with
  | none => pure ()
  | some number =>
    Act.update (fun f => { f with index := none })
    match ← closeIndex number with
    | .error e => Act.update (fun f => f.log (.indexCloseFailed e))
    | .ok _ => pure ()

def close : Act Unit := do
  unlink
  dropIndex
  orFail (← unloadWallet)
  Act.update (fun f => f.log .closed)

end ChainFollower.Follower
