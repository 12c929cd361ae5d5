/-
  `Network` — which addresses a host can take for itself.

  An address of version 4 and the address of version 6 that is mapped to it are the same one. The
  addresses of all zeros stand for all addresses of the host. A port can be taken at two addresses only
  if neither of them stands for the other; port 0 stands for one that is free.
-/
import SchemaCatalog.SocketAddress

namespace SchemaCatalog

/-- Why a host cannot listen at an address. -/
inductive BindFailure where
  /-- It is no address of the host. -/
  | addressMissing
  /-- It is an address of many hosts, or one of a link that is not told. -/
  | addressInvalid
  /-- It is an address of a link that the host does not have. -/
  | linkMissing
  /-- The host listens there already. -/
  | addressInUse
deriving DecidableEq, Repr

/-- The wording of a failure. -/
def BindFailure.message : BindFailure → String
  | addressMissing => "Cannot assign requested address (os error 99)"
  | addressInvalid => "Invalid argument (os error 22)"
  | linkMissing => "No such device (os error 19)"
  | addressInUse => "Address already in use (os error 98)"

namespace SocketAddress

def port : SocketAddress → Nat
  | v4 _ port => port
  | v6 _ _ port => port

/-- The address of version 4 that an address is mapped to; any other address is itself. -/
def unmapped : SocketAddress → SocketAddress
  | v6 [0, 0, 0, 0, 0, 0xFFFF, a, b] _ port => v4 [a / 256, a % 256, b / 256, b % 256] port
  | address => address

/-- Whether `a` stands for `b`: it is the same one, or all addresses of `b`'s version, those of version
6 including all of version 4. -/
def covers (a b : SocketAddress) : Bool :=
  match a.unmapped, b.unmapped with
  | v4 x _, v4 y _ => x == y || x == [0, 0, 0, 0]
  | v4 _ _, v6 _ _ _ => false
  | v6 g _ _, v4 _ _ => g.all (· == 0)
  | v6 g _ _, v6 h _ _ => g == h || g.all (· == 0)

/-- Whether a host that listens at one address cannot listen at the other one too. -/
def clashes (a b : SocketAddress) : Bool :=
  a.port != 0 && a.port == b.port && (a.covers b || b.covers a)

/-- The address at which a host listens that was told to listen at `a`: `free` is the port that it takes
for port 0, and the scope does not count. -/
def settled (free : Nat) (a : SocketAddress) : SocketAddress :=
  let port := if a.port = 0 then free else a.port
  match a with
  | v4 octets _ => v4 octets port
  | v6 groups _ _ => v6 groups 0 port

end SocketAddress

/-- The addresses of a host. -/
structure Network where
  /-- Why the host cannot listen at an address, although it listens nowhere. -/
  addressFailure : SocketAddress → Option BindFailure

namespace Network

/-- Why a host that listens at the addresses `taken` cannot listen at one more. -/
def bindFailure (n : Network) (taken : List SocketAddress) (address : SocketAddress) :
    Option BindFailure :=
  match n.addressFailure address with
  | some failure => some failure
  | none => if taken.any (address.clashes ·) then some .addressInUse else none

/-- The addresses of a host that listens at the addresses `taken` already. -/
def occupied (n : Network) (taken : List SocketAddress) : Network := ⟨n.bindFailure taken⟩

/-- Why the host without neighbours cannot listen at an address of version 4: it has those that lead
back to it, and groups and everyone can be listened to anywhere. -/
def isolatedFailure4 (octets : List Nat) : Option BindFailure :=
  let first := octets.headD 0
  if first = 127 || (224 ≤ first && first ≤ 239) || octets == [0, 0, 0, 0] ||
      octets == [255, 255, 255, 255] then
    none
  else some .addressMissing

/-- Why the host without neighbours cannot listen at an address of version 6: it has none of its own.
The only link is number 1. -/
def isolatedFailure6 (groups : List Nat) (scope : Nat) : Option BindFailure :=
  let first := groups.headD 0
  if groups.all (· == 0) then none
  else if 0xFF00 ≤ first then some .addressInvalid
  else if 0xFE80 ≤ first && first ≤ 0xFEBF then
    if scope = 0 then some .addressInvalid
    else if scope = 1 then some .addressMissing
    else some .linkMissing
  else some .addressMissing

/-- The host that no other one is connected to. -/
def isolated : Network where
  addressFailure address :=
    match address.unmapped with
    | .v4 octets _ => isolatedFailure4 octets
    | .v6 groups scope _ => isolatedFailure6 groups scope

end Network

end SchemaCatalog
