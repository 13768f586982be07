import Amt.Lib.Bytes

/-!
# Internet addresses

`std::net` addresses as the program sees them: octets, the classification
predicates it asks for, and the total orders its ordered maps iterate in.

The order on every type is the derived one of the standard library: variants in
declaration order (IPv4 before IPv6), fields lexicographically, `None` before
`Some`.  A `SocketAddr` of the IPv6 family carries a flow label and a scope id, and
both take part in equality and order: two socket addresses with the same IP and port
need not be the same key.
-/

namespace Amt

/-- An IPv4 address. -/
structure Ipv4Addr where
  octets : Octets 4
deriving DecidableEq, Repr

/-- An IPv6 address. -/
structure Ipv6Addr where
  octets : Octets 16
deriving DecidableEq, Repr

namespace Octets

/-- The octet at a position of the array. -/
def get {n : ℕ} (a : Octets n) (i : Fin n) : UInt8 :=
  a.toList.get (i.cast a.length_toList.symm)

end Octets

namespace Ipv4Addr

/-- `Ipv4Addr::new`. -/
def new (a b c d : UInt8) : Ipv4Addr := ⟨⟨[a, b, c, d], rfl⟩⟩

/-- `0.0.0.0`. -/
def unspecified : Ipv4Addr := new 0 0 0 0

/-- `224.0.0.0/4`. -/
def isMulticast (a : Ipv4Addr) : Bool := 224 ≤ a.octets.get 0 && a.octets.get 0 ≤ 239

def isUnspecified (a : Ipv4Addr) : Bool := a = unspecified

/-- `255.255.255.255`. -/
def isBroadcast (a : Ipv4Addr) : Bool := a = new 255 255 255 255

theorem octets_injective : Function.Injective octets := by
  rintro ⟨a⟩ ⟨b⟩ rfl
  rfl

instance instLinearOrder : LinearOrder Ipv4Addr := orderByKey octets octets_injective

/-- An IPv4 address is the address of its four octets. -/
theorem exists_eq_new (a : Ipv4Addr) : ∃ w x y z, a = new w x y z := by
  obtain ⟨⟨bytes, h⟩⟩ := a
  match bytes, h with
  | [w, x, y, z], _ => exact ⟨w, x, y, z, rfl⟩

end Ipv4Addr

/-- The octets of an IPv6 address are indexed by literals. -/
instance instNeZeroSixteen : NeZero 16 := ⟨by decide⟩

namespace Ipv6Addr

/-- `Ipv6Addr::new`, from its eight segments. -/
def new (a b c d e f g h : UInt16) : Ipv6Addr :=
  ⟨⟨u16ToBe a ++ u16ToBe b ++ u16ToBe c ++ u16ToBe d ++ u16ToBe e ++ u16ToBe f ++ u16ToBe g ++
    u16ToBe h, rfl⟩⟩

/-- `::`. -/
def unspecified : Ipv6Addr := new 0 0 0 0 0 0 0 0

/-- `segments()[0]`. -/
def segment0 (a : Ipv6Addr) : UInt16 := u16OfBe (a.octets.get 0) (a.octets.get 1)

/-- `ff00::/8`. -/
def isMulticast (a : Ipv6Addr) : Bool := a.segment0 &&& 0xff00 == 0xff00

def isUnspecified (a : Ipv6Addr) : Bool := a = unspecified

theorem octets_injective : Function.Injective octets := by
  rintro ⟨a⟩ ⟨b⟩ rfl
  rfl

instance instLinearOrder : LinearOrder Ipv6Addr := orderByKey octets octets_injective

end Ipv6Addr

/-- An address of either family. -/
inductive IpAddr where
  | v4 (address : Ipv4Addr)
  | v6 (address : Ipv6Addr)
deriving DecidableEq, Repr

namespace IpAddr

def isMulticast : IpAddr → Bool
  | v4 a => a.isMulticast
  | v6 a => a.isMulticast

/-- The key of the derived order: IPv4 before IPv6. -/
def sortKey : IpAddr → Ipv4Addr ⊕ₗ Ipv6Addr
  | v4 a => toLex (.inl a)
  | v6 a => toLex (.inr a)

theorem sortKey_injective : Function.Injective sortKey := by
  intro a b h
  cases a <;> cases b <;> simp_all [sortKey]

instance instLinearOrder : LinearOrder IpAddr := orderByKey sortKey sortKey_injective

instance instLawfulBEq : LawfulBEq IpAddr := inferInstance

/-- Both addresses are of one family. -/
def sameFamily : IpAddr → IpAddr → Bool
  | v4 _, v4 _ => true
  | v6 _, v6 _ => true
  | _, _ => false

end IpAddr

/-- A UDP endpoint. -/
inductive SocketAddr where
  | v4 (ip : Ipv4Addr) (port : UInt16)
  | v6 (ip : Ipv6Addr) (port : UInt16) (flowinfo scopeId : UInt32)
deriving DecidableEq, Repr

namespace SocketAddr

/-- `SocketAddr::new`: no flow label, no scope. -/
def new : IpAddr → UInt16 → SocketAddr
  | .v4 ip, port => v4 ip port
  | .v6 ip, port => v6 ip port 0 0

def ip : SocketAddr → IpAddr
  | v4 ip _ => .v4 ip
  | v6 ip _ _ _ => .v6 ip

def port : SocketAddr → UInt16
  | v4 _ port => port
  | v6 _ port _ _ => port

@[simp] theorem ip_new (ip : IpAddr) (port : UInt16) : (new ip port).ip = ip := by
  cases ip <;> rfl

@[simp] theorem port_new (ip : IpAddr) (port : UInt16) : (new ip port).port = port := by
  cases ip <;> rfl

/-- The key of the derived order. -/
def sortKey : SocketAddr → (Ipv4Addr ×ₗ ℕ) ⊕ₗ (Ipv6Addr ×ₗ (ℕ ×ₗ (ℕ ×ₗ ℕ)))
  | v4 ip port => toLex (.inl (toLex (ip, port.toNat)))
  | v6 ip port flowinfo scopeId =>
      toLex (.inr (toLex (ip, toLex (port.toNat, toLex (flowinfo.toNat, scopeId.toNat)))))

theorem sortKey_injective : Function.Injective sortKey := by
  intro a b h
  cases a <;> cases b <;> simp_all [sortKey, UInt16.toNat_inj, UInt32.toNat_inj]

instance instLinearOrder : LinearOrder SocketAddr :=
  orderByKey sortKey sortKey_injective

end SocketAddr

end Amt
