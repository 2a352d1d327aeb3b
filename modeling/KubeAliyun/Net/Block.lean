import Mathlib.Data.List.Basic

/-!
# Address blocks

Addresses and networks as the package `net` of Go keeps them.  A network that
`ParseCIDR` returns has been masked, so its own address is the first one of its block;
the last one has the bits outside the mask set.  One network contains another as
soon as it contains these two.
-/

namespace KubeAliyun.Net

/-- `net.IP` and `net.IPMask`: 4 or 16 bytes. -/
abbrev Bytes : Type := List (BitVec 8)

structure IPNet where
  ip : Bytes
  mask : Bytes
deriving DecidableEq, Repr

def v4InV6Prefix : Bytes := List.replicate 10 0 ++ [0xff, 0xff]

def to4 (ip : Bytes) : Option Bytes :=
  if ip.length = 4 then some ip
  else if ip.length = 16 ∧ ip.take 12 = v4InV6Prefix then some (ip.drop 12)
  else none

/-- `networkNumberAndMask`; a network that is none has no bytes. -/
def networkNumberAndMask (net : IPNet) : Bytes × Bytes :=
  let ip := (to4 net.ip).getD net.ip
  if ip.length = 4 ∧ net.mask.length = 4 then (ip, net.mask)
  else if ip.length = 4 ∧ net.mask.length = 16 then (ip, net.mask.drop 12)
  else if ip.length = 16 ∧ net.mask.length = 16 then (ip, net.mask)
  else ([], [])

def masked (ip mask : Bytes) : Bytes := List.zipWith (· &&& ·) ip mask

def IPNet.contains (net : IPNet) (address : Bytes) : Bool :=
  let network := networkNumberAndMask net
  let ip := (to4 address).getD address
  ip.length == network.1.length && masked network.1 network.2 == masked ip network.2

/-- The last address of a block, as `isResponsibleForRoute` computes it. -/
def IPNet.lastIP (net : IPNet) : Bytes :=
  List.zipWith (fun byte keep => byte ||| ~~~keep) net.ip net.mask

/-- A network of the form that `ParseCIDR` returns for an IPv4 text. -/
structure IPNet.Version4 (net : IPNet) : Prop where
  address : net.ip.length = 4
  mask : net.mask.length = 4
  masked : masked net.ip net.mask = net.ip

/-! ## Containment byte by byte -/

def Agree : Bytes → Bytes → Bytes → Prop
  | first :: more, second :: others, keep :: mask =>
      first &&& keep = second &&& keep ∧ Agree more others mask
  | [], [], [] => True
  | _, _, _ => False

theorem agree_iff {first second mask : Bytes} (one : first.length = mask.length)
    (two : second.length = mask.length) :
    Agree first second mask ↔ masked first mask = masked second mask := by
  induction mask generalizing first second with
  | nil =>
      rw [List.length_eq_zero_iff.mp one, List.length_eq_zero_iff.mp two]
      simp [Agree]
  | cons keep mask ih =>
      cases first with
      | nil => cases one
      | cons byte more =>
          cases second with
          | nil => cases two
          | cons other others =>
              rw [Agree, ih (Nat.succ.inj one) (Nat.succ.inj two)]
              simp [masked]

/-- A mask that the first and the last byte of a block agree under has no bit in which
the block varies. -/
theorem byte_block {first keep outer base : BitVec 8} (own : first &&& keep = first)
    (start : base &&& outer = first &&& outer)
    (stop : base &&& outer = (first ||| ~~~keep) &&& outer) {byte : BitVec 8}
    (member : first &&& keep = byte &&& keep) : base &&& outer = byte &&& outer := by
  apply BitVec.eq_of_getLsbD_eq
  intro bit _
  have ownBit := congrArg (fun value : BitVec 8 => value.getLsbD bit) own
  have startBit := congrArg (fun value : BitVec 8 => value.getLsbD bit) start
  have stopBit := congrArg (fun value : BitVec 8 => value.getLsbD bit) stop
  have memberBit := congrArg (fun value : BitVec 8 => value.getLsbD bit) member
  simp only [BitVec.getLsbD_and, BitVec.getLsbD_or, BitVec.getLsbD_not] at *
  grind

/-- A block lies in a network when its first and its last address do. -/
theorem agree_block {first mask base outer address : Bytes}
    (own : masked first mask = first) (sized : first.length = mask.length)
    (start : Agree base first outer)
    (stop : Agree base (List.zipWith (fun byte keep => byte ||| ~~~keep) first mask) outer)
    (member : Agree first address mask) : Agree base address outer := by
  induction first generalizing mask base outer address with
  | nil =>
      have empty := List.length_eq_zero_iff.mp sized.symm
      subst empty
      cases address with
      | nil => exact start
      | cons byte rest => exact member.elim
  | cons byte rest ih =>
      cases mask with
      | nil => cases sized
      | cons keep mask =>
          cases address with
          | nil => exact member.elim
          | cons other others =>
              cases base with
              | nil => exact start.elim
              | cons root roots =>
                  cases outer with
                  | nil => exact start.elim
                  | cons wide wider =>
                      have ownBytes : byte &&& keep = byte ∧ masked rest mask = rest :=
                        List.cons.inj own
                      exact ⟨byte_block ownBytes.1 start.1 stop.1 member.1,
                        ih ownBytes.2 (Nat.succ.inj sized) start.2 stop.2 member.2⟩

/-- A block's own address and its last one belong to it. -/
theorem agree_first {first mask : Bytes} (sized : first.length = mask.length) :
    Agree first first mask := (agree_iff sized sized).mpr rfl

theorem agree_last {first mask : Bytes} (sized : first.length = mask.length) :
    Agree first (List.zipWith (fun byte keep => byte ||| ~~~keep) first mask) mask := by
  induction first generalizing mask with
  | nil =>
      have empty := List.length_eq_zero_iff.mp sized.symm
      subst empty
      trivial
  | cons byte rest ih =>
      cases mask with
      | nil => cases sized
      | cons keep mask =>
          refine ⟨?_, ih (Nat.succ.inj sized)⟩
          apply BitVec.eq_of_getLsbD_eq
          intro bit _
          simp only [BitVec.getLsbD_and, BitVec.getLsbD_or, BitVec.getLsbD_not]
          grind

/-! ## IPv4 networks -/

theorem contains_iff {net : IPNet} (version : net.Version4) {address : Bytes}
    (sized : address.length = 4) :
    net.contains address = true ↔ Agree net.ip address net.mask := by
  have own : to4 net.ip = some net.ip := if_pos version.address
  have other : to4 address = some address := if_pos sized
  rw [agree_iff (version.address.trans version.mask.symm) (sized.trans version.mask.symm)]
  simp [IPNet.contains, networkNumberAndMask, own, other, version.address, version.mask, sized]

theorem lastIP_length {net : IPNet} (version : net.Version4) : net.lastIP.length = 4 := by
  simp [IPNet.lastIP, version.address, version.mask]

/-- A network contains the first and the last address of a block exactly when it
contains every address of it. -/
theorem contains_ends_iff {outer net : IPNet} (wide : outer.Version4) (version : net.Version4) :
    (outer.contains net.ip = true ∧ outer.contains net.lastIP = true) ↔
      ∀ address : Bytes, address.length = 4 → net.contains address = true →
        outer.contains address = true := by
  have sized : net.ip.length = net.mask.length := version.address.trans version.mask.symm
  constructor
  · rintro ⟨start, stop⟩ address four member
    rw [contains_iff wide four]
    exact agree_block version.masked sized
      ((contains_iff wide version.address).mp start)
      ((contains_iff wide (lastIP_length version)).mp stop)
      ((contains_iff version four).mp member)
  · intro every
    refine ⟨every net.ip version.address ?_, every net.lastIP (lastIP_length version) ?_⟩
    · exact (contains_iff version version.address).mpr (agree_first sized)
    · exact (contains_iff version (lastIP_length version)).mpr (agree_last sized)

end KubeAliyun.Net
