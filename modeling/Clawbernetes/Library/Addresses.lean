import Clawbernetes.Library.Bytes
import Mathlib.Data.UInt
import Mathlib.Tactic.Ring

/-!
# Internet addresses

Addresses of both versions as the octets and the segments they are written with, the numbers they
stand for, and the networks they belong to. Two addresses are in one network of a given prefix
length when their numbers agree in the leading bits (`SamePrefix`), which for the usual lengths is
equality of the leading octets or segments (`Ipv4Addr.samePrefix_24_iff`,
`Ipv6Addr.samePrefix_48_iff`). Every number below `2 ^ 32` is the number of one address
(`Ipv4Addr.toNat_ofNat`, `Ipv4Addr.ofNat_toNat`).

A network is an address in it and the length of its prefix. The hosts of a network of version 4 are
its addresses without the first and the last (`Ipv4Net.IsHost`), and they are counted from the first
address of the network (`Ipv4Net.isHost_of_toNat`).
-/

set_option autoImplicit false
set_option relaxedAutoImplicit false

namespace Library.Addresses

/-- An address of version 4: four octets. -/
@[ext] structure Ipv4Addr where
  first : UInt8
  second : UInt8
  third : UInt8
  fourth : UInt8
  deriving DecidableEq

namespace Ipv4Addr

/-- The number of an address, the first octet leading. -/
def toNat (address : Ipv4Addr) : ℕ :=
  address.first.toNat * 2 ^ 24 + address.second.toNat * 2 ^ 16 + address.third.toNat * 2 ^ 8 +
    address.fourth.toNat

/-- The address of a number. -/
def ofNat (number : ℕ) : Ipv4Addr :=
  ⟨.ofNat (number / 2 ^ 24), .ofNat (number / 2 ^ 16), .ofNat (number / 2 ^ 8), .ofNat number⟩

/-- The number of the address of a number. -/
theorem toNat_ofNat {number : ℕ} (hnumber : number < 2 ^ 32) : (ofNat number).toNat = number := by
  unfold toNat ofNat
  simp only [UInt8.toNat_ofNat']
  omega

/-- The address of the number of an address. -/
theorem ofNat_toNat (address : Ipv4Addr) : ofNat address.toNat = address := by
  have hfirst := address.first.toNat_lt
  have hsecond := address.second.toNat_lt
  have hthird := address.third.toNat_lt
  have hfourth := address.fourth.toNat_lt
  unfold ofNat toNat
  ext1
  all_goals
    apply UInt8.toNat_inj.mp
    simp only [UInt8.toNat_ofNat']
    omega

/-- Two addresses are in one network of a prefix length. -/
def SamePrefix (length : ℕ) (address other : Ipv4Addr) : Prop :=
  address.toNat / 2 ^ (32 - length) = other.toNat / 2 ^ (32 - length)

instance (length : ℕ) (address other : Ipv4Addr) :
    Decidable (SamePrefix length address other) := inferInstanceAs (Decidable (_ = _))

/-- The number of an address is below `2 ^ 32`. -/
theorem toNat_lt (address : Ipv4Addr) : address.toNat < 2 ^ 32 := by
  have hfirst := address.first.toNat_lt
  have hsecond := address.second.toNat_lt
  have hthird := address.third.toNat_lt
  have hfourth := address.fourth.toNat_lt
  unfold toNat
  omega

/-- Two addresses are in one network of 65536 addresses when their first two octets agree. -/
theorem samePrefix_16_iff {address other : Ipv4Addr} :
    SamePrefix 16 address other ↔ address.first = other.first ∧ address.second = other.second := by
  have hsecond := address.second.toNat_lt
  have hthird := address.third.toNat_lt
  have hfourth := address.fourth.toNat_lt
  have hotherSecond := other.second.toNat_lt
  have hotherThird := other.third.toNat_lt
  have hotherFourth := other.fourth.toNat_lt
  rw [← UInt8.toNat_inj, ← UInt8.toNat_inj]
  unfold SamePrefix toNat
  omega

/-- Two addresses are in one network of 256 addresses when their first three octets agree. -/
theorem samePrefix_24_iff {address other : Ipv4Addr} :
    SamePrefix 24 address other ↔ address.first = other.first ∧ address.second = other.second ∧
      address.third = other.third := by
  have hsecond := address.second.toNat_lt
  have hthird := address.third.toNat_lt
  have hfourth := address.fourth.toNat_lt
  have hotherSecond := other.second.toNat_lt
  have hotherThird := other.third.toNat_lt
  have hotherFourth := other.fourth.toNat_lt
  rw [← UInt8.toNat_inj, ← UInt8.toNat_inj, ← UInt8.toNat_inj]
  unfold SamePrefix toNat
  omega

/-- The text of an address: its octets in decimal. -/
def display (address : Ipv4Addr) : String :=
  toString address.first.toNat ++ "." ++ toString address.second.toNat ++ "." ++
    toString address.third.toNat ++ "." ++ toString address.fourth.toNat

/-- The text of an address is its octets joined with dots. -/
theorem display_eq (address : Ipv4Addr) : address.display =
    toString address.first.toNat ++ String.singleton '.' ++
      (toString address.second.toNat ++ String.singleton '.' ++
        (toString address.third.toNat ++ String.singleton '.' ++
          toString address.fourth.toNat)) := by
  unfold display
  simp only [String.append_assoc]
  rfl

/-- Every character of the text of an address is a digit or a dot. -/
theorem not_mem_display {character : Char} (hdigit : character.isDigit = false)
    (hdot : character ≠ '.') (address : Ipv4Addr) : character ∉ address.display.toList := by
  have hoctet : ∀ octet : UInt8, character ∉ (toString octet.toNat).toList := fun octet ↦
    Bytes.not_mem_decimal hdigit octet.toNat
  rw [display_eq]
  simp only [String.toList_append, String.toList_singleton, List.mem_append, List.mem_singleton,
    hoctet, hdot, or_self, not_false_eq_true]

/-- An address is read back from its text. -/
theorem display_injective : Function.Injective display := by
  have hdot : ∀ octet : UInt8, '.' ∉ (toString octet.toNat).toList := fun octet ↦
    Bytes.not_mem_decimal rfl octet.toNat
  have hoctet : ∀ {octet other : UInt8}, toString octet.toNat = toString other.toNat →
      octet = other := fun htext ↦ UInt8.toNat_inj.mp (Bytes.decimal_inj htext)
  intro address other htext
  rw [display_eq, display_eq] at htext
  obtain ⟨hfirst, htext⟩ := Bytes.join_inj (hdot _) (hdot _) htext
  obtain ⟨hsecond, htext⟩ := Bytes.join_inj (hdot _) (hdot _) htext
  obtain ⟨hthird, hfourth⟩ := Bytes.join_inj (hdot _) (hdot _) htext
  exact Ipv4Addr.ext (hoctet hfirst) (hoctet hsecond) (hoctet hthird) (hoctet hfourth)

/-- `Ipv4Addr::is_private`. -/
def isPrivate (address : Ipv4Addr) : Bool :=
  address.first = 10 || (address.first = 172 && 16 ≤ address.second && address.second ≤ 31) ||
    (address.first = 192 && address.second = 168)

/-- `Ipv4Addr::is_loopback`. -/
def isLoopback (address : Ipv4Addr) : Bool := address.first = 127

/-- `Ipv4Addr::is_link_local`. -/
def isLinkLocal (address : Ipv4Addr) : Bool := address.first = 169 && address.second = 254

/-- `Ipv4Addr::is_broadcast`. -/
def isBroadcast (address : Ipv4Addr) : Bool := address = ⟨255, 255, 255, 255⟩

/-- `Ipv4Addr::is_unspecified`. -/
def isUnspecified (address : Ipv4Addr) : Bool := address = ⟨0, 0, 0, 0⟩

end Ipv4Addr

/-- An address of version 6: eight segments. -/
@[ext] structure Ipv6Addr where
  segments : Vector UInt16 8
  deriving DecidableEq

namespace Ipv6Addr

/-- The number of an address, the first segment leading. -/
def toNat (address : Ipv6Addr) : ℕ :=
  address.segments[0].toNat * 2 ^ 112 + address.segments[1].toNat * 2 ^ 96 +
    address.segments[2].toNat * 2 ^ 80 + address.segments[3].toNat * 2 ^ 64 +
    address.segments[4].toNat * 2 ^ 48 + address.segments[5].toNat * 2 ^ 32 +
    address.segments[6].toNat * 2 ^ 16 + address.segments[7].toNat

/-- Two addresses are in one network of a prefix length. -/
def SamePrefix (length : ℕ) (address other : Ipv6Addr) : Prop :=
  address.toNat / 2 ^ (128 - length) = other.toNat / 2 ^ (128 - length)

instance (length : ℕ) (address other : Ipv6Addr) :
    Decidable (SamePrefix length address other) := inferInstanceAs (Decidable (_ = _))

/-- The leading 48 bits are the first three segments. -/
theorem toNat_div_pow_80 (address : Ipv6Addr) :
    address.toNat / 2 ^ 80 = address.segments[0].toNat * 2 ^ 32 +
      address.segments[1].toNat * 2 ^ 16 + address.segments[2].toNat := by
  have hthird := address.segments[3].toNat_lt
  have hfourth := address.segments[4].toNat_lt
  have hfifth := address.segments[5].toNat_lt
  have hsixth := address.segments[6].toNat_lt
  have hseventh := address.segments[7].toNat_lt
  unfold toNat
  omega

/-- Two addresses agree in their first 48 bits when their first three segments agree. -/
theorem samePrefix_48_iff {address other : Ipv6Addr} :
    SamePrefix 48 address other ↔ address.segments[0] = other.segments[0] ∧
      address.segments[1] = other.segments[1] ∧ address.segments[2] = other.segments[2] := by
  have hfirst := address.segments[1].toNat_lt
  have hsecond := address.segments[2].toNat_lt
  have hotherFirst := other.segments[1].toNat_lt
  have hotherSecond := other.segments[2].toNat_lt
  rw [← UInt16.toNat_inj, ← UInt16.toNat_inj, ← UInt16.toNat_inj]
  unfold SamePrefix
  rw [toNat_div_pow_80, toNat_div_pow_80]
  omega

/-- `Ipv6Addr::is_loopback`. -/
def isLoopback (address : Ipv6Addr) : Bool := address.toNat = 1

/-- `Ipv6Addr::is_unspecified`. -/
def isUnspecified (address : Ipv6Addr) : Bool := address.toNat = 0

end Ipv6Addr

/-! ### Networks -/

/-- A network of version 4: an address in it and the length of its prefix. -/
structure Ipv4Net where
  addr : Ipv4Addr
  prefixLen : ℕ
  prefixLen_le : prefixLen ≤ 32
  deriving DecidableEq

namespace Ipv4Net

/-- Sixteen bits are the length of a prefix. -/
theorem sixteen_le : 16 ≤ 32 := by decide

/-- Twenty-four bits are the length of a prefix. -/
theorem twentyFour_le : 24 ≤ 32 := by decide

/-- The network has the address. -/
def Contains (net : Ipv4Net) (address : Ipv4Addr) : Prop :=
  Ipv4Addr.SamePrefix net.prefixLen net.addr address

instance (net : Ipv4Net) (address : Ipv4Addr) : Decidable (net.Contains address) :=
  inferInstanceAs (Decidable (Ipv4Addr.SamePrefix _ _ _))

/-- The number of addresses of a network. -/
def size (net : Ipv4Net) : ℕ := 2 ^ (32 - net.prefixLen)

/-- The first address of a network. -/
def network (net : Ipv4Net) : Ipv4Addr := .ofNat (net.addr.toNat / net.size * net.size)

/-- The last address of a network. -/
def broadcast (net : Ipv4Net) : Ipv4Addr :=
  .ofNat (net.addr.toNat / net.size * net.size + (net.size - 1))

/-- The address belongs to the network and is neither its first nor its last. -/
def IsHost (net : Ipv4Net) (address : Ipv4Addr) : Prop :=
  net.Contains address ∧ address ≠ net.network ∧ address ≠ net.broadcast

instance (net : Ipv4Net) (address : Ipv4Addr) : Decidable (net.IsHost address) :=
  inferInstanceAs (Decidable (_ ∧ _ ∧ _))

/-- A network has an address. -/
theorem size_pos (net : Ipv4Net) : 0 < net.size := Nat.two_pow_pos _

/-- A network ends before the number `2 ^ 32`. -/
theorem last_lt (net : Ipv4Net) :
    net.addr.toNat / net.size * net.size + (net.size - 1) < 2 ^ 32 := by
  have hsplit : 2 ^ 32 = 2 ^ net.prefixLen * net.size := by
    unfold size
    rw [← pow_add, Nat.add_sub_of_le net.prefixLen_le]
  have hquotient : net.addr.toNat / net.size < 2 ^ net.prefixLen := by
    apply Nat.div_lt_of_lt_mul
    rw [Nat.mul_comm, ← hsplit]
    exact net.addr.toNat_lt
  have hmultiple : (net.addr.toNat / net.size + 1) * net.size ≤ 2 ^ net.prefixLen * net.size :=
    Nat.mul_le_mul_right net.size hquotient
  have hpos := net.size_pos
  rw [Nat.add_mul, Nat.one_mul, ← hsplit] at hmultiple
  omega

/-- The number of the first address of a network. -/
theorem toNat_network (net : Ipv4Net) :
    net.network.toNat = net.addr.toNat / net.size * net.size := by
  apply Ipv4Addr.toNat_ofNat
  have hlast := net.last_lt
  omega

/-- The number of the last address of a network. -/
theorem toNat_broadcast (net : Ipv4Net) :
    net.broadcast.toNat = net.network.toNat + (net.size - 1) := by
  rw [toNat_network]
  exact Ipv4Addr.toNat_ofNat net.last_lt

/-- The addresses after the first and before the last are hosts. -/
theorem isHost_of_toNat {net : Ipv4Net} {address : Ipv4Addr} {offset : ℕ}
    (haddress : address.toNat = net.network.toNat + offset) (hpos : 0 < offset)
    (hlt : offset + 1 < net.size) : net.IsHost address := by
  refine ⟨?_, ?_, ?_⟩
  · change net.addr.toNat / net.size = address.toNat / net.size
    have hoffset : offset / net.size = 0 := Nat.div_eq_of_lt (by omega)
    rw [haddress, toNat_network, Nat.mul_comm, Nat.mul_add_div net.size_pos, hoffset, Nat.add_zero]
  · intro hsame
    rw [hsame] at haddress
    omega
  · intro hsame
    rw [hsame, toNat_broadcast] at haddress
    omega

end Ipv4Net

/-- A network of version 6: an address in it and the length of its prefix. -/
structure Ipv6Net where
  addr : Ipv6Addr
  prefixLen : ℕ
  prefixLen_le : prefixLen ≤ 128
  deriving DecidableEq

/-- The network has the address. -/
def Ipv6Net.Contains (net : Ipv6Net) (address : Ipv6Addr) : Prop :=
  Ipv6Addr.SamePrefix net.prefixLen net.addr address

/-- An address of either version. -/
inductive IpAddr where
  | v4 (address : Ipv4Addr)
  | v6 (address : Ipv6Addr)
  deriving DecidableEq

/-- A network of either version. -/
inductive IpNet where
  | v4 (net : Ipv4Net)
  | v6 (net : Ipv6Net)
  deriving DecidableEq

namespace IpNet

/-- The network has the address, which is of the same version. -/
def Contains : IpNet → IpAddr → Prop
  | .v4 net, .v4 address => net.Contains address
  | .v6 net, .v6 address => net.Contains address
  | _, _ => False

/-- No address is in both networks. -/
def Disjoint (net other : IpNet) : Prop :=
  ∀ address, net.Contains address → ¬ other.Contains address

/-- Every address of the first network is in the second. -/
def Within (net pool : IpNet) : Prop :=
  ∀ address, net.Contains address → pool.Contains address

end IpNet

/-- An address and a port. -/
structure SocketAddr where
  ip : IpAddr
  port : UInt16
  deriving DecidableEq

end Library.Addresses
