import ChainFollower.Text.Hex

/-!
Passphrases in buffers that belong to the caller. Whoever uses one leaves it wiped.
-/

namespace ChainFollower.Passphrase

/-- The public passphrase of those who give none. -/
def insecurePublic : Bytes := [0x70, 0x75, 0x62, 0x6c, 0x69, 0x63]

def orInsecure (bytes : Bytes) : Bytes :=
  if bytes.isEmpty then insecurePublic else bytes

/-- A buffer of the same length, all zeros. -/
def wiped (bytes : Bytes) : Bytes :=
  bytes.map (fun _ => 0)

end ChainFollower.Passphrase
