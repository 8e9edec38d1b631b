/-
  Subnets of addresses (`subnetMask`, `networkAddress` and `broadcastAddress` of
  `IPv4Address` and `IPv6Address`).

  * `CreateMask` with the arithmetic of `int`: a shift by the full width and a
    difference that does not fit have no defined behaviour;
  * `bit` is a bit of an address, the first one first. `IsSubnetMask`,
    `IsNetwork` and `IsBroadcast` say that a call gives the bits it should;
  * the mask has the bits of the host, and `networkAddress` keeps those;
    `subnet_iff`: for which addresses and prefixes each call is right.
-/
import Ancfl.ByteArray.RoundTrip
import Ancfl.Lib.Int32

namespace Ancfl

open Lib

/-! ## The calls -/

/-- `CreateMask<T>(bits)` for a `T` of `w` bits. -/
def CreateMask (w bits : ℕ) : Option (BitVec w) :=
  let count := toUInt64 ((w : ℤ) - bits)
  if 32 ≤ count then none
  else (checked32 (toInt32 (2 ^ count) - 1)).map (BitVec.ofInt w)

/-- `sockaddr_in`; `s_addr` is in the order of the network. -/
structure IPv4Address where
  sin_family : BitVec 16
  sin_port : BitVec 16
  s_addr : BitVec (8 * 4)
deriving DecidableEq

/-- `sockaddr_in6`. -/
structure IPv6Address where
  sin6_family : BitVec 16
  sin6_port : BitVec 16
  sin6_flowinfo : BitVec 32
  s6_addr : Vector (BitVec 8) 16
  sin6_scope_id : BitVec 32
deriving DecidableEq

/-! The calls below return a pointer, `some none` being the null pointer, or have no defined
behaviour. -/

namespace IPv4Address

def broadcastAddress (prefix_len : ℕ) (a : IPv4Address) : Option (Option IPv4Address) :=
  if 32 < prefix_len then some none
  else (CreateMask 32 prefix_len).map fun mask =>
    some { a with s_addr := a.s_addr ||| byteswapOnLittleEndian (n := 4) mask }

def networkAddress (prefix_len : ℕ) (a : IPv4Address) : Option (Option IPv4Address) :=
  if 32 < prefix_len then some none
  else (CreateMask 32 prefix_len).map fun mask =>
    some { a with s_addr := a.s_addr &&& byteswapOnLittleEndian (n := 4) mask }

/-- `AF_INET` is 2. -/
def subnetMask (prefix_len : ℕ) : Option (Option IPv4Address) :=
  (CreateMask 32 prefix_len).map fun mask => some ⟨2, 0, ~~~byteswapOnLittleEndian (n := 4) mask⟩

/-- A bit of the address. -/
def bit (a : IPv4Address) (i : Fin 32) : Bool := (byteswapOnLittleEndian a.s_addr).getLsbD (31 - i)

end IPv4Address

/-- `s6_addr[i]`, changed by `f`. -/
def setByte (i : ℕ) (f : BitVec 8 → BitVec 8) (addr : Vector (BitVec 8) 16) : Option (Vector (BitVec 8) 16) :=
  if _h : i < 16 then some (addr.set i (f addr[i])) else none

/-- `for (; i < n; ++i) s6_addr[i] = v`. -/
def fill (v : BitVec 8) (i n : ℕ) (addr : Vector (BitVec 8) 16) : Option (Vector (BitVec 8) 16) :=
  if i < n then (setByte i (fun _ => v) addr).bind (fill v (i + 1) n) else some addr
termination_by n - i

namespace IPv6Address

def broadcastAddress (prefix_len : ℕ) (a : IPv6Address) : Option (Option IPv6Address) := do
  let mask ← CreateMask 8 (prefix_len % 8)
  let addr ← setByte (prefix_len / 8) (· ||| mask) a.s6_addr
  let addr ← fill 0xff (prefix_len / 8 + 1) 16 addr
  return some { a with s6_addr := addr }

def networkAddress (prefix_len : ℕ) (a : IPv6Address) : Option (Option IPv6Address) := do
  let mask ← CreateMask 8 (prefix_len % 8)
  let addr ← setByte (prefix_len / 8) (· &&& mask) a.s6_addr
  let addr ← fill 0x00 (prefix_len / 8 + 1) 16 addr
  return some { a with s6_addr := addr }

/-- `AF_INET6` is 10. -/
def subnetMask (prefix_len : ℕ) : Option (Option IPv6Address) := do
  let mask ← CreateMask 8 (prefix_len % 8)
  let addr ← setByte (prefix_len / 8) (fun _ => ~~~mask) (Vector.replicate 16 0)
  let addr ← fill 0xff 0 (prefix_len / 8) addr
  return some ⟨10, 0, 0, addr, 0⟩

/-- A bit of the address. -/
def bit (a : IPv6Address) (i : Fin 128) : Bool := (a.s6_addr.get ⟨i / 8, by omega⟩).getLsbD (7 - i % 8)

end IPv6Address

/-! ## What they should give -/

section
variable {α : Type} {n : ℕ} (bit : α → Fin n → Bool) (prefix_len : ℕ) (a : α)

/-- The first `prefix_len` bits, and no others. -/
def IsSubnetMask (r : Option (Option α)) : Prop :=
  ∃ m, r = some (some m) ∧ ∀ i, bit m i = decide (i.val < prefix_len)

/-- The address and the mask. -/
def IsNetwork (r : Option (Option α)) : Prop :=
  ∃ m, r = some (some m) ∧ ∀ i, bit m i = (bit a i && decide (i.val < prefix_len))

/-- The address or the complement of the mask. -/
def IsBroadcast (r : Option (Option α)) : Prop :=
  ∃ m, r = some (some m) ∧ ∀ i, bit m i = (bit a i || !decide (i.val < prefix_len))

end

/-! ## Masks -/

/-- The mask has the bits behind the prefix; it is not defined if these are too many for an `int`. -/
theorem createMask_eq {w bits : ℕ} (hw : w ≤ 32) (hbits : bits ≤ w) :
    CreateMask w bits = if w - bits ≤ 30 then some (BitVec.ofNat w (2 ^ (w - bits) - 1)) else none := by
  have hcount : toUInt64 ((w : ℤ) - bits) = w - bits := by
    rw [← Nat.cast_sub hbits, toUInt64_natCast (by omega)]
  obtain ⟨k, hk⟩ : ∃ k, k = w - bits := ⟨_, rfl⟩
  rw [CreateMask, hcount, ← hk]
  split_ifs with h32 h30 h30
  · omega
  · rfl
  · have hpow : 2 ^ k ≤ 2 ^ 30 := Nat.pow_le_pow_right (by decide) h30
    have hpos : 0 < 2 ^ k := Nat.two_pow_pos k
    have hshift : toInt32 (2 ^ k) = (2 ^ k : ℕ) := by
      rw [← toInt32_natCast (show 2 ^ k < 2 ^ 31 by omega), Nat.cast_pow]
      rfl
    rw [hshift, show ((2 ^ k : ℕ) : ℤ) - 1 = (2 ^ k - 1 : ℕ) by omega,
      checked32_of_fits ⟨by omega, by omega⟩, Option.map_some, BitVec.ofInt_natCast]
  · obtain rfl : k = 31 := by omega
    rfl

theorem getLsbD_mask {w k i : ℕ} (hi : i < w) :
    (BitVec.ofNat w (2 ^ k - 1)).getLsbD i = decide (i < k) := by
  rw [BitVec.getLsbD_ofNat, Nat.testBit_two_pow_sub_one, decide_eq_true hi, Bool.true_and]

/-! ## Bytes -/

/-- A bit after `byteswap`. -/
theorem getLsbD_byteswap {n j r : ℕ} {v : BitVec (8 * n)} (hj : j < n) (hr : r < 8) :
    (byteswap v).getLsbD (8 * j + r) = v.getLsbD (8 * (n - 1 - j) + r) := by
  have hlength := length_leBytes n v.toNat
  obtain ⟨b, hb⟩ : ∃ b, (leBytes n v.toNat)[n - 1 - j]? = some b :=
    ⟨_, List.getElem?_eq_getElem (show n - 1 - j < _ by omega)⟩
  have hb' : (leBytes n v.toNat).reverse[j]? = some b := by
    rw [List.getElem?_reverse (by omega), hlength, hb]
  have hv : leNat (leBytes n v.toNat) = v.toNat := by
    rw [leNat_leBytes, ← two_pow_eight_mul, Nat.mod_eq_of_lt v.isLt]
  rw [byteswap, BitVec.getLsbD_ofNat, testBit_leNat hb' hr, ← testBit_leNat hb hr, hv,
    decide_eq_true (by omega), Bool.true_and]
  rfl

section
variable {v w : BitVec (8 * 4)}

theorem byteswap_ext {v w : BitVec (8 * 4)} (h : ∀ j < 4, ∀ r < 8,
    v.getLsbD (8 * j + r) = w.getLsbD (8 * j + r)) : v = w := by
  refine BitVec.eq_of_getLsbD_eq fun i hi => ?_
  have hbit := h (i / 8) (by omega) (i % 8) (by omega)
  rwa [Nat.div_add_mod] at hbit

theorem byteswap_or : byteswap (v ||| w) = byteswap v ||| byteswap w := by
  refine byteswap_ext fun j hj r hr => ?_
  simp only [BitVec.getLsbD_or, getLsbD_byteswap hj hr]

theorem byteswap_and : byteswap (v &&& w) = byteswap v &&& byteswap w := by
  refine byteswap_ext fun j hj r hr => ?_
  simp only [BitVec.getLsbD_and, getLsbD_byteswap hj hr]

theorem byteswap_not : byteswap (~~~v) = ~~~byteswap v := by
  refine byteswap_ext fun j hj r hr => ?_
  have hj' : 8 * j + r < 8 * 4 := by omega
  have hj'' : 8 * (4 - 1 - j) + r < 8 * 4 := by omega
  simp only [BitVec.getLsbD_not, getLsbD_byteswap hj hr, decide_eq_true hj', decide_eq_true hj'']

end

/-! ## The calls on the bits -/

namespace IPv4Address

variable {a : IPv4Address} {p : ℕ}

theorem bit_or (mask : BitVec 32) (i : Fin 32) :
    bit { a with s_addr := a.s_addr ||| byteswapOnLittleEndian (n := 4) mask } i =
      (a.bit i || mask.getLsbD (31 - i)) := by
  show (byteswap (a.s_addr ||| byteswap (n := 4) mask)).getLsbD (31 - i) = _
  rw [byteswap_or, byteswap_byteswap, BitVec.getLsbD_or]
  rfl

theorem bit_and (mask : BitVec 32) (i : Fin 32) :
    bit { a with s_addr := a.s_addr &&& byteswapOnLittleEndian (n := 4) mask } i =
      (a.bit i && mask.getLsbD (31 - i)) := by
  show (byteswap (a.s_addr &&& byteswap (n := 4) mask)).getLsbD (31 - i) = _
  rw [byteswap_and, byteswap_byteswap, BitVec.getLsbD_and]
  rfl

theorem bit_not (sin_family sin_port : BitVec 16) (mask : BitVec 32) (i : Fin 32) :
    bit ⟨sin_family, sin_port, ~~~byteswapOnLittleEndian (n := 4) mask⟩ i = !mask.getLsbD (31 - i) := by
  show (byteswap (~~~byteswap (n := 4) mask)).getLsbD (31 - i) = _
  have hi : 31 - i.val < 8 * 4 := by omega
  rw [byteswap_not, byteswap_byteswap, BitVec.getLsbD_not, decide_eq_true hi]
  rfl

/-- The bits of the mask are those behind the prefix. -/
theorem getLsbD_hostmask (hp : p ≤ 32) (i : Fin 32) :
    (BitVec.ofNat 32 (2 ^ (32 - p) - 1)).getLsbD (31 - i) = !decide (i.val < p) := by
  rw [getLsbD_mask (by omega), ← decide_not]
  exact decide_eq_decide.2 (by omega)

/-- An address all bits of which are 0. -/
theorem s_addr_eq_zero_iff : a.s_addr = 0 ↔ ∀ i, a.bit i = false := by
  have hswap : byteswap (0 : BitVec (8 * 4)) = 0 := by decide
  constructor
  · intro h i
    show (byteswap a.s_addr).getLsbD (31 - i) = false
    rw [h, hswap]
    exact BitVec.getLsbD_zero
  · intro h
    have hzero : byteswap a.s_addr = 0 := by
      refine BitVec.eq_of_getLsbD_eq fun i hi => ?_
      have hbit : (byteswap a.s_addr).getLsbD (31 - (31 - i)) = false := h ⟨31 - i, by omega⟩
      rw [show 31 - (31 - i) = i by omega] at hbit
      rw [hbit]
      exact BitVec.getLsbD_zero.symm
    rw [← byteswap_byteswap a.s_addr, hzero, hswap]

/-- Without a mask nothing is returned. -/
theorem not_map_none {f : BitVec 32 → Option IPv4Address} {P : IPv4Address → Prop} :
    ¬ ∃ m, Option.map f none = some (some m) ∧ P m := by
  rintro ⟨m, hm, -⟩
  cases hm

theorem subnetMask_iff (hp : p ≤ 32) : IsSubnetMask bit p (subnetMask p) ↔ 2 ≤ p := by
  rw [IsSubnetMask, subnetMask, createMask_eq le_rfl hp]
  split_ifs with h
  · refine iff_of_true ⟨_, rfl, fun i => ?_⟩ (by omega)
    rw [bit_not, getLsbD_hostmask hp, Bool.not_not]
  · exact iff_of_false not_map_none (by omega)

theorem broadcastAddress_iff (hp : p ≤ 32) : IsBroadcast bit p a (a.broadcastAddress p) ↔ 2 ≤ p := by
  rw [IsBroadcast, broadcastAddress, if_neg (by omega), createMask_eq le_rfl hp]
  split_ifs with h
  · refine iff_of_true ⟨_, rfl, fun i => ?_⟩ (by omega)
    rw [bit_or, getLsbD_hostmask hp]
  · exact iff_of_false not_map_none (by omega)

/-- `networkAddress` keeps the bits of the host, not those of the network. -/
theorem networkAddress_iff (hp : p ≤ 32) :
    IsNetwork bit p a (a.networkAddress p) ↔ 2 ≤ p ∧ a.s_addr = 0 := by
  have hmask := getLsbD_hostmask hp
  rw [IsNetwork, networkAddress, if_neg (by omega), createMask_eq le_rfl hp]
  generalize BitVec.ofNat 32 (2 ^ (32 - p) - 1) = mask at *
  split_ifs with h
  · have hbits (i : Fin 32) :
        bit { a with s_addr := a.s_addr &&& byteswapOnLittleEndian (n := 4) mask } i =
          (a.bit i && decide (i.val < p)) ↔ a.bit i = false := by
      rw [bit_and, hmask]
      cases a.bit i <;> cases decide (i.val < p) <;> decide
    rw [s_addr_eq_zero_iff]
    constructor
    · rintro ⟨m, hm, hall⟩
      obtain rfl := Option.some.inj (Option.some.inj hm)
      exact ⟨by omega, fun i => (hbits i).1 (hall i)⟩
    · rintro ⟨-, hall⟩
      exact ⟨_, rfl, fun i => (hbits i).2 (hall i)⟩
  · exact iff_of_false not_map_none (by omega)

end IPv4Address

/-! ## Bytes of an IPv6 address -/

/-- The loop of an index over a part of the address. -/
theorem fill_ret {v : BitVec 8} : ∀ (k : ℕ) {i n : ℕ} (addr : Vector (BitVec 8) 16), n - i = k → n ≤ 16 →
    ∃ addr', fill v i n addr = some addr' ∧
      ∀ j (h : j < 16), addr'[j] = if i ≤ j ∧ j < n then v else addr[j] := by
  intro k
  induction k with
  | zero =>
    intro i n addr hk hn
    refine ⟨addr, by rw [fill, if_neg (by omega)], fun j hj => ?_⟩
    rw [if_neg (by omega)]
  | succ k ih =>
    intro i n addr hk hn
    obtain ⟨addr', hret, hbytes⟩ := ih (i := i + 1) (n := n) (addr.set i v (by omega)) (by omega) hn
    refine ⟨addr', ?_, fun j hj => ?_⟩
    · rw [fill, if_pos (by omega), setByte, dif_pos (by omega)]
      exact hret
    · rw [hbytes j hj, Vector.getElem_set]
      split_ifs <;> first | rfl | omega

namespace IPv6Address

variable {a : IPv6Address} {p : ℕ}

theorem createMask_byte (p : ℕ) :
    CreateMask 8 (p % 8) = some (BitVec.ofNat 8 (2 ^ (8 - p % 8) - 1)) := by
  rw [createMask_eq (by decide) (by omega), if_pos (by omega)]

/-- The bits of the mask are those behind the prefix, in its byte. -/
theorem getLsbD_bytemask (p : ℕ) {r : ℕ} (hr : r < 8) :
    (BitVec.ofNat 8 (2 ^ (8 - p % 8) - 1)).getLsbD (7 - r) = !decide (r < p % 8) := by
  rw [getLsbD_mask (by omega), ← decide_not]
  exact decide_eq_decide.2 (by omega)

theorem getLsbD_ones : ∀ r < 8, (0xff : BitVec 8).getLsbD (7 - r) = true := by decide

theorem setByte_none {f : BitVec 8 → BitVec 8} {addr : Vector (BitVec 8) 16} (hp : ¬ p < 128) :
    setByte (p / 8) f addr = none :=
  dif_neg (by omega)

/-- The byte of the prefix is changed, and those behind it are set. -/
theorem setByte_fill (f : BitVec 8 → BitVec 8) (v : BitVec 8) (addr : Vector (BitVec 8) 16) (hp : p < 128) :
    ∃ addr', ((setByte (p / 8) f addr).bind fun addr => fill v (p / 8 + 1) 16 addr) = some addr' ∧
      ∀ j (h : j < 16), addr'[j] = if j < p / 8 then addr[j] else if j = p / 8 then f addr[j] else v := by
  have hindex : p / 8 < 16 := by omega
  obtain ⟨addr', hret, hbytes⟩ :=
    @fill_ret v _ (p / 8 + 1) 16 (addr.set (p / 8) (f addr[p / 8])) rfl le_rfl
  refine ⟨addr', by rw [setByte, dif_pos hindex, Option.bind_some, hret], fun j hj => ?_⟩
  rw [hbytes j hj, Vector.getElem_set]
  rcases Nat.lt_trichotomy j (p / 8) with hlt | rfl | hgt
  · rw [if_neg (by omega), if_neg (by omega), if_pos hlt]
  · rw [if_neg (by omega), if_pos rfl, if_neg (by omega), if_pos rfl]
  · rw [if_pos (by omega), if_neg (by omega), if_neg (by omega)]

theorem prefix_before {i : ℕ} (h : i / 8 < p / 8) : decide (i < p) = true := decide_eq_true (by omega)

theorem prefix_at {i : ℕ} (h : i / 8 = p / 8) : decide (i < p) = decide (i % 8 < p % 8) :=
  decide_eq_decide.2 (by omega)

theorem prefix_behind {i : ℕ} (h : p / 8 < i / 8) : decide (i < p) = false := decide_eq_false (by omega)

/-- A call that does not write behind the address. -/
theorem setByte_iff {P : IPv6Address → Prop} {f : BitVec 8 → BitVec 8} {addr : Vector (BitVec 8) 16}
    {g : Vector (BitVec 8) 16 → Option (Option IPv6Address)} :
    (∃ m, (setByte (p / 8) f addr).bind g = some (some m) ∧ P m) → p < 128 := by
  rintro ⟨m, hm, -⟩
  by_contra h
  rw [setByte_none h] at hm
  cases hm

theorem broadcastAddress_iff : IsBroadcast bit p a (a.broadcastAddress p) ↔ p < 128 := by
  have hmask := @getLsbD_bytemask p
  rw [IsBroadcast, broadcastAddress, createMask_byte]
  generalize BitVec.ofNat 8 (2 ^ (8 - p % 8) - 1) = mask at *
  simp only [Option.bind_eq_bind, Option.bind_some]
  refine ⟨setByte_iff, fun h => ?_⟩
  obtain ⟨addr, hret, hbytes⟩ := setByte_fill (· ||| mask) 0xff a.s6_addr h
  refine ⟨{ a with s6_addr := addr }, by rw [← Option.bind_assoc, hret]; rfl, fun i => ?_⟩
  have hj : i.val / 8 < 16 := by omega
  have hr : i.val % 8 < 8 := by omega
  show addr[i.val / 8].getLsbD (7 - i % 8) = _
  rw [hbytes _ hj]
  rcases Nat.lt_trichotomy (i.val / 8) (p / 8) with hlt | heq | hgt
  · rw [if_pos hlt, prefix_before hlt, Bool.not_true, Bool.or_false]
    rfl
  · rw [if_neg (by omega), if_pos heq, BitVec.getLsbD_or, hmask hr, prefix_at heq]
    rfl
  · rw [if_neg (by omega), if_neg (by omega), prefix_behind hgt, Bool.not_false, Bool.or_true]
    exact getLsbD_ones _ hr

theorem subnetMask_iff : IsSubnetMask bit p (subnetMask p) ↔ p < 128 := by
  have hmask := @getLsbD_bytemask p
  rw [IsSubnetMask, subnetMask, createMask_byte]
  generalize BitVec.ofNat 8 (2 ^ (8 - p % 8) - 1) = mask at *
  simp only [Option.bind_eq_bind, Option.bind_some]
  refine ⟨setByte_iff, fun h => ?_⟩
  have hindex : p / 8 < 16 := by omega
  obtain ⟨addr, hret, hbytes⟩ :=
    @fill_ret 0xff _ 0 (p / 8) ((Vector.replicate 16 0).set (p / 8) (~~~mask)) rfl hindex.le
  refine ⟨⟨10, 0, 0, addr, 0⟩, by rw [setByte, dif_pos hindex, Option.bind_some, hret]; rfl, fun i => ?_⟩
  have hj : i.val / 8 < 16 := by omega
  have hr : i.val % 8 < 8 := by omega
  have hr' : 7 - i.val % 8 < 8 := by omega
  show addr[i.val / 8].getLsbD (7 - i % 8) = _
  rw [hbytes _ hj, Vector.getElem_set, Vector.getElem_replicate]
  rcases Nat.lt_trichotomy (i.val / 8) (p / 8) with hlt | heq | hgt
  · rw [if_pos (by omega), prefix_before hlt]
    exact getLsbD_ones _ hr
  · rw [if_neg (by omega), if_pos heq.symm, BitVec.getLsbD_not, decide_eq_true hr', hmask hr, prefix_at heq,
      Bool.true_and, Bool.not_not]
  · rw [if_neg (by omega), if_neg (by omega), prefix_behind hgt]
    exact BitVec.getLsbD_zero

/-- `networkAddress` keeps the bits of the host in the byte of the prefix, not those of the network. -/
theorem networkAddress_iff :
    IsNetwork bit p a (a.networkAddress p) ↔ ∃ h : p / 8 < 16, a.s6_addr[p / 8] = 0 := by
  have hmask := @getLsbD_bytemask p
  rw [IsNetwork, networkAddress, createMask_byte]
  generalize BitVec.ofNat 8 (2 ^ (8 - p % 8) - 1) = mask at *
  simp only [Option.bind_eq_bind, Option.bind_some]
  by_cases h : p < 128
  · obtain ⟨addr, hret, hbytes⟩ := setByte_fill (· &&& mask) 0x00 a.s6_addr h
    have hbits (i : Fin 128) : bit { a with s6_addr := addr } i = (a.bit i && decide (i.val < p)) ↔
        (i.val / 8 = p / 8 → a.bit i = false) := by
      have hj : i.val / 8 < 16 := by omega
      have hr : i.val % 8 < 8 := by omega
      show addr[i.val / 8].getLsbD (7 - i % 8) = _ ↔ _
      rw [hbytes _ hj]
      rcases Nat.lt_trichotomy (i.val / 8) (p / 8) with hlt | heq | hgt
      · rw [if_pos hlt, prefix_before hlt, Bool.and_true]
        exact iff_of_true rfl fun heq => absurd heq hlt.ne
      · rw [if_neg (by omega), if_pos heq, BitVec.getLsbD_and, hmask hr, prefix_at heq]
        show (a.bit i && _) = _ ↔ _
        cases a.bit i <;> cases decide (i.val % 8 < p % 8) <;> simp [heq]
      · rw [if_neg (by omega), if_neg (by omega), prefix_behind hgt, Bool.and_false]
        exact iff_of_true BitVec.getLsbD_zero fun heq => absurd heq hgt.ne'
    rw [← Option.bind_assoc, hret]
    constructor
    · rintro ⟨m, hm, hall⟩
      obtain rfl := Option.some.inj (Option.some.inj hm)
      refine ⟨by omega, BitVec.eq_of_getLsbD_eq fun k hk => ?_⟩
      obtain ⟨i, hi⟩ : ∃ i : Fin 128, i.val = 8 * (p / 8) + (7 - k) := ⟨⟨_, by omega⟩, rfl⟩
      have hj : i.val / 8 = p / 8 := by omega
      have hk' : 7 - i.val % 8 = k := by omega
      have hbit : a.s6_addr[i.val / 8].getLsbD (7 - i % 8) = false := (hbits i).1 (hall i) hj
      simp only [hj, hk'] at hbit
      rw [hbit]
      exact BitVec.getLsbD_zero.symm
    · rintro ⟨hindex, hzero⟩
      refine ⟨_, rfl, fun i => (hbits i).2 fun hj => ?_⟩
      show a.s6_addr[i.val / 8].getLsbD (7 - i % 8) = false
      simp only [hj, hzero]
      exact BitVec.getLsbD_zero
  · refine iff_of_false (fun hret => h (setByte_iff hret)) ?_
    rintro ⟨hindex, -⟩
    omega

end IPv6Address

/-- **Subnets.** The mask and the broadcast address are right for prefixes from 2 on of an IPv4 address,
    and up to 127 of an IPv6 address; the network address only if all bits of the IPv4 address, or
    those of the byte of the IPv6 address in which the prefix ends, are 0. -/
theorem subnet_iff (a : IPv4Address) (b : IPv6Address) (p : ℕ) :
    (p ≤ 32 →
      (IsSubnetMask IPv4Address.bit p (IPv4Address.subnetMask p) ↔ 2 ≤ p) ∧
      (IsNetwork IPv4Address.bit p a (a.networkAddress p) ↔ 2 ≤ p ∧ a.s_addr = 0) ∧
      (IsBroadcast IPv4Address.bit p a (a.broadcastAddress p) ↔ 2 ≤ p)) ∧
    (p ≤ 128 →
      (IsSubnetMask IPv6Address.bit p (IPv6Address.subnetMask p) ↔ p < 128) ∧
      (IsNetwork IPv6Address.bit p b (b.networkAddress p) ↔ ∃ h : p / 8 < 16, b.s6_addr[p / 8] = 0) ∧
      (IsBroadcast IPv6Address.bit p b (b.broadcastAddress p) ↔ p < 128)) := by
  refine ⟨fun hp => ?_, fun _ => ?_⟩
  · exact ⟨IPv4Address.subnetMask_iff hp, IPv4Address.networkAddress_iff hp,
      IPv4Address.broadcastAddress_iff hp⟩
  · exact ⟨IPv6Address.subnetMask_iff, IPv6Address.networkAddress_iff, IPv6Address.broadcastAddress_iff⟩

/-- A prefix of 24, for an IPv4 and an IPv6 address. -/
theorem subnet_mask :
    IsSubnetMask IPv4Address.bit 24 (IPv4Address.subnetMask 24) ∧
    IsSubnetMask IPv6Address.bit 24 (IPv6Address.subnetMask 24) := by
  obtain ⟨hv4, hv6⟩ := subnet_iff ⟨2, 0, 0⟩ ⟨10, 0, 0, Vector.replicate 16 0, 0⟩ 24
  exact ⟨(hv4 (by decide)).1.2 (by decide), (hv6 (by decide)).1.2 (by decide)⟩

/-- The network of 192.168.1.5 with a prefix of 24 is not 192.168.1.0. -/
theorem not_subnet : ¬ ∀ (a : IPv4Address) (p : ℕ), p ≤ 32 → IsNetwork IPv4Address.bit p a (a.networkAddress p) := by
  intro h
  have hzero := (IPv4Address.networkAddress_iff (by decide)).1 (h ⟨2, 0, 0x0501a8c0⟩ 24 (by decide))
  revert hzero
  decide

end Ancfl
