import ChainFollower.Follower.Calls
import ChainFollower.Wallet.Passphrase

/-!
Work over buffers that the caller lends. A buffer is read where its bytes are used, and whoever takes
one guards it: it is wiped when the work under its guard ends, in whatever way.
-/

namespace ChainFollower

/-- A follower, and what the buffers hold that it was lent. -/
structure Lent (n : Nat) where
  buffers : Vector Bytes n
  follower : Follower

/-- Work on a follower and on lent buffers, that a failure or a panic may end. -/
abbrev Lending (n : Nat) (α : Type) := ExceptT Stop (StateM (Lent n)) α

namespace Lent

def wiped {n : Nat} (lent : Lent n) (buffer : Fin n) : Lent n :=
  { lent with
    buffers := lent.buffers.set buffer (Passphrase.wiped (lent.buffers.get buffer)) }

end Lent

namespace Lending

variable {n : Nat} {α : Type}

/-- Work that does not see the buffers. -/
def call (work : Act α) : Lending n α :=
  ExceptT.mk fun lent =>
    let result := work.run lent.follower
    (result.1, { lent with follower := result.2 })

def read (buffer : Fin n) : Lending n Bytes := do
  return (← get).buffers.get buffer

def guarding (buffer : Fin n) (work : Lending n α) : Lending n α := do
  try work finally modify (fun lent => lent.wiped buffer)

end Lending

end ChainFollower
