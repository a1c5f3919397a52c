import Sponge.Router

set_option autoImplicit false

namespace Sponge

open Shared

def ipv4Routes : PrefixScheme RouteCall where
  width := 32
  network call := call.routePrefix.toNat
  length call := call.prefixLength.toNat

namespace RouteCall

def info (call : RouteCall) : Option Address × Nat := (call.nextHop, call.interfaceNum)

def action (call : RouteCall) (dst : UInt32) : Nat × Address :=
  (call.interfaceNum, call.nextHop.getD (Address.fromIpv4Numeric dst))

end RouteCall

namespace Router

def forwarded (dgram : IPv4Datagram) : IPv4Datagram :=
  { dgram with header := { dgram.header with ttl := dgram.header.ttl - 1 } }

def decision (self : Router) (dgram : IPv4Datagram) : Option (Nat × Address) :=
  if dgram.header.ttl.toNat < 2 then
    none
  else
    (self.findRoute dgram.header.dst).map fun (routeHop, interfaceNum) =>
      (interfaceNum, routeHop.getD (Address.fromIpv4Numeric dgram.header.dst))

theorem ttl_expires (ttl : UInt8) : ttl = 0 ∨ ttl - 1 = 0 ↔ ttl.toNat < 2 := by
  have bound := ttl.toNat_lt
  rw [← UInt8.toNat_inj, ← UInt8.toNat_inj, UInt8.toNat_sub]
  simp only [UInt8.reduceToNat]
  omega

theorem routeOneDatagram_eq (self : Router) (dgram : IPv4Datagram) :
    self.routeOneDatagram dgram =
      match self.decision dgram with
      | none => (self, .ok ())
      | some (interfaceNum, nextHop) =>
          self.onInterface interfaceNum fun interface => interface.sendDatagram (forwarded dgram) nextHop := by
  rw [routeOneDatagram, decision]
  cases self.findRoute dgram.header.dst with
  | none => rw [Option.map_none, ite_self]
  | some info =>
      by_cases expired : dgram.header.ttl.toNat < 2
      · rw [if_pos expired]
        rcases (ttl_expires _).mpr expired with zero | one
        · simp only [if_pos zero]
        · simp only [if_pos one, ite_self]
      · have alive := not_or.mp (mt (ttl_expires _).mp expired)
        simp only [if_neg expired, if_neg alive.1, if_neg alive.2, Option.map_some, forwarded]

section Lookup

theorem iterate_half (x : UInt32) (i : Nat) : ((· / 2)^[i] x).toNat = x.toNat / 2 ^ i := by
  induction i with
  | zero => simp
  | succ i ih =>
      rw [Function.iterate_succ_apply', UInt32.toNat_div, ih, Nat.div_div_eq_div_mul, Nat.pow_succ]
      rfl

theorem iterate_double {x : UInt32} {i : Nat} (fits : x.toNat * 2 ^ i < 2 ^ 32) :
    ((· * 2)^[i] x).toNat = x.toNat * 2 ^ i := by
  induction i with
  | zero => simp
  | succ i ih =>
      rw [Nat.pow_succ, ← Nat.mul_assoc] at fits ⊢
      rw [Function.iterate_succ_apply', UInt32.toNat_mul, ih (by omega)]
      exact Nat.mod_eq_of_lt fits

theorem dstPart_toNat (dst : UInt32) (i : Nat) : (dstPart dst i).toNat = dst.toNat / 2 ^ i * 2 ^ i := by
  have fits : ((· / 2)^[i] dst).toNat * 2 ^ i < 2 ^ 32 := by
    rw [iterate_half]
    exact (Nat.div_mul_le_self _ _).trans_lt dst.toNat_lt
  rw [dstPart, iterate_double fits, iterate_half]

theorem lookup_addRoutes (self : Router) (calls : List RouteCall) (routePrefix : UInt32) (prefixLength : UInt8) :
    (calls.foldl addRoute self).routes.lookup (routePrefix, prefixLength) =
      ((ipv4Routes.installed calls (routePrefix.toNat, prefixLength.toNat)).map RouteCall.info).or
        (self.routes.lookup (routePrefix, prefixLength)) := by
  induction calls generalizing self with
  | nil => rfl
  | cons call calls ih =>
      rw [List.foldl_cons, ih, ← List.singleton_append, PrefixScheme.installed_append, Option.map_or, Option.or_assoc]
      congr 1
      have key : ipv4Routes.key call = (routePrefix.toNat, prefixLength.toNat) ↔
          (routePrefix, prefixLength) = (call.routePrefix, call.prefixLength) := by
        simp only [PrefixScheme.key, ipv4Routes, Prod.mk.injEq, UInt32.toNat_inj, UInt8.toNat_inj]
        exact and_congr eq_comm eq_comm
      by_cases same : (routePrefix, prefixLength) = (call.routePrefix, call.prefixLength)
      · rw [addRoute, same, AList.lookup_insert, ← same]
        simp [PrefixScheme.installed, key.mpr same, RouteCall.info]
      · rw [addRoute, AList.lookup_insert_ne same]
        simp [PrefixScheme.installed, mt key.mp same]

theorem findRoute_eq (interfaces : List AsyncNetworkInterface) (calls : List RouteCall) (dst : UInt32) :
    (calls.foldl addRoute { interfaces }).findRoute dst =
      (ipv4Routes.search (ipv4Routes.installed calls) dst.toNat).map RouteCall.info := by
  have lookup (i : Nat) : (calls.foldl addRoute { interfaces }).routes.lookup (dstPart dst i, UInt8.ofNat (32 - i)) =
      (ipv4Routes.installed calls (dst.toNat / 2 ^ i * 2 ^ i, 32 - i)).map RouteCall.info := by
    have length : (UInt8.ofNat (32 - i)).toNat = 32 - i := UInt8.toNat_ofNat_of_lt' (show 32 - i < 256 by omega)
    rw [lookup_addRoutes, dstPart_toNat, length]
    exact Option.or_none
  simp only [findRoute, lookup, PrefixScheme.search, List.map_findSome?]
  rfl

theorem decision_eq (interfaces : List AsyncNetworkInterface) (calls : List RouteCall) (dgram : IPv4Datagram) :
    (calls.foldl addRoute { interfaces }).decision dgram =
      if dgram.header.ttl.toNat < 2 then
        none
      else
        (ipv4Routes.search (ipv4Routes.installed calls) dgram.header.dst.toNat).map
          fun call => call.action dgram.header.dst := by
  rw [decision, findRoute_eq, Option.map_map]
  rfl

end Lookup

theorem interfaces_addRoutes (self : Router) (calls : List RouteCall) :
    (calls.foldl addRoute self).interfaces = self.interfaces := by
  induction calls generalizing self with
  | nil => rfl
  | cons call calls ih => exact ih (self.addRoute call)

theorem routeOneDatagram_sends {self : Router} {dgram : IPv4Datagram} {n : Nat} {nextHop : Address}
    {interface : AsyncNetworkInterface} (decided : self.decision dgram = some (n, nextHop))
    (present : self.interfaces[n]? = some interface) :
    let sent := interface.sendDatagram (forwarded dgram) nextHop
    self.routeOneDatagram dgram = ({ self with interfaces := self.interfaces.set n sent.1 }, sent.2) := by
  rw [routeOneDatagram_eq, decided]
  exact onInterface_present present _

theorem routeOneDatagram_congr {self other : Router} (interfaces : self.interfaces = other.interfaces)
    {dgram : IPv4Datagram} (decided : self.decision dgram = other.decision dgram) :
    (self.routeOneDatagram dgram).1.interfaces = (other.routeOneDatagram dgram).1.interfaces ∧
      (self.routeOneDatagram dgram).2 = (other.routeOneDatagram dgram).2 := by
  rw [routeOneDatagram_eq, routeOneDatagram_eq, decided]
  cases other.decision dgram with
  | none => exact ⟨interfaces, rfl⟩
  | some action =>
      simp only [onInterface, interfaces]
      cases other.interfaces[action.1]? with
      | none => exact ⟨interfaces, rfl⟩
      | some interface => exact ⟨rfl, rfl⟩

theorem lookup_addRoutes_congr {calls reordered : List RouteCall} {routePrefix : UInt32} {prefixLength : UInt8}
    (same : reordered.filter (fun call => call.routePrefix = routePrefix ∧ call.prefixLength = prefixLength) =
      calls.filter fun call => call.routePrefix = routePrefix ∧ call.prefixLength = prefixLength) (self : Router) :
    (reordered.foldl addRoute self).routes.lookup (routePrefix, prefixLength) =
      (calls.foldl addRoute self).routes.lookup (routePrefix, prefixLength) := by
  have installed (calls : List RouteCall) : ipv4Routes.installed calls (routePrefix.toNat, prefixLength.toNat) =
      (calls.filter fun call => call.routePrefix = routePrefix ∧ call.prefixLength = prefixLength).getLast? := by
    simp only [PrefixScheme.installed, PrefixScheme.key, ipv4Routes, Prod.mk.injEq, UInt32.toNat_inj, UInt8.toNat_inj]
  rw [lookup_addRoutes, lookup_addRoutes, installed, installed, same]

section Aligned

variable {calls : List RouteCall} (fits : ∀ call ∈ calls, ipv4Routes.length call ≤ ipv4Routes.width)
  (aligned : ∀ call ∈ calls, ipv4Routes.Aligned call) (interfaces : List AsyncNetworkInterface) {dgram : IPv4Datagram}
include fits aligned

theorem decision_longest {call : RouteCall} (longest : ipv4Routes.LongestMatch calls dgram.header.dst.toNat call)
    (alive : ¬dgram.header.ttl.toNat < 2) :
    (calls.foldl addRoute { interfaces }).decision dgram = some (call.action dgram.header.dst) := by
  rw [decision_eq, if_neg alive, (PrefixScheme.search_eq_some_iff_of_aligned fits aligned).mpr longest,
    Option.map_some]

theorem decision_uncovered (uncovered : ∀ call ∈ calls, ¬ipv4Routes.Covers call dgram.header.dst.toNat) :
    (calls.foldl addRoute { interfaces }).decision dgram = none := by
  have missed : ipv4Routes.search (ipv4Routes.installed calls) dgram.header.dst.toNat = none := by
    refine Option.eq_none_iff_forall_ne_some.mpr fun call found => ?_
    have longest := (PrefixScheme.search_eq_some_iff_of_aligned fits aligned).mp found
    exact uncovered call (PrefixScheme.mem_of_installed longest.installed).1 longest.covers
  rw [decision_eq, missed, Option.map_none, ite_self]

end Aligned

theorem forwards_by_longest_prefix (interfaces : List AsyncNetworkInterface) (calls : List RouteCall)
    (valid : ∀ call ∈ calls, call.prefixLength.toNat ≤ 32 ∧ call.interfaceNum < interfaces.length ∧
      ipv4Routes.Aligned call) (dgram : IPv4Datagram) :
    let router := calls.foldl addRoute { interfaces }
    let dst := dgram.header.dst
    (∀ call, ipv4Routes.LongestMatch calls dst.toNat call → 2 ≤ dgram.header.ttl.toNat →
      ∃ interface, interfaces[call.interfaceNum]? = some interface ∧
        let sent := interface.sendDatagram (forwarded dgram) (call.nextHop.getD (Address.fromIpv4Numeric dst))
        router.routeOneDatagram dgram =
          ({ router with interfaces := interfaces.set call.interfaceNum sent.1 }, sent.2)) ∧
    ((∀ call ∈ calls, ¬ipv4Routes.Covers call dst.toNat) ∨ dgram.header.ttl.toNat < 2 →
      router.routeOneDatagram dgram = (router, .ok ())) ∧
    ((∃ call ∈ calls, ipv4Routes.Covers call dst.toNat) → ∃ call, ipv4Routes.LongestMatch calls dst.toNat call) ∧
    ∀ reordered : List RouteCall,
      (∀ routePrefix prefixLength,
        reordered.filter (fun call => call.routePrefix = routePrefix ∧ call.prefixLength = prefixLength) =
          calls.filter fun call => call.routePrefix = routePrefix ∧ call.prefixLength = prefixLength) →
      let result := (reordered.foldl addRoute { interfaces }).routeOneDatagram dgram
      result.1.interfaces = (router.routeOneDatagram dgram).1.interfaces ∧
        result.2 = (router.routeOneDatagram dgram).2 := by
  intro router dst
  have fits : ∀ call ∈ calls, ipv4Routes.length call ≤ ipv4Routes.width := fun call member => (valid call member).1
  have aligned : ∀ call ∈ calls, ipv4Routes.Aligned call := fun call member => (valid call member).2.2
  have same : router.interfaces = interfaces := interfaces_addRoutes _ calls
  refine ⟨?_, ?_, ?_, ?_⟩
  · intro call longest alive
    have member := (PrefixScheme.mem_of_installed longest.installed).1
    obtain ⟨interface, present⟩ : ∃ interface, interfaces[call.interfaceNum]? = some interface :=
      ⟨_, List.getElem?_eq_getElem (valid call member).2.1⟩
    have decided := decision_longest fits aligned interfaces longest (Nat.not_lt.mpr alive)
    refine ⟨interface, present, ?_⟩
    rw [← same] at present ⊢
    exact routeOneDatagram_sends decided present
  · intro dropped
    have decided : router.decision dgram = none := by
      rcases dropped with uncovered | expired
      · exact decision_uncovered fits aligned interfaces uncovered
      · rw [decision, if_pos expired]
    rw [routeOneDatagram_eq, decided]
  · rintro ⟨call, member, covers⟩
    exact PrefixScheme.exists_longestMatch fits aligned member covers
  · intro reordered sameCalls
    refine routeOneDatagram_congr ?_ ?_
    · rw [interfaces_addRoutes, same]
    · simp only [decision, findRoute, router, fun routePrefix prefixLength =>
        lookup_addRoutes_congr (sameCalls routePrefix prefixLength)]

def twoRoutes : List RouteCall :=
  [⟨0x0a000000, 8, none, 0⟩, ⟨0x0a010000, 16, some ⟨0x0a010001, 0⟩, 0⟩]

theorem forwards_by_longest_prefix_nested :
    let interface : AsyncNetworkInterface := { ethernetAddress := Vector.replicate 6 2, ipAddress := ⟨1, 0⟩ }
    let dgram : IPv4Datagram := { header := { dst := 0x0a010203 } }
    (∀ call ∈ twoRoutes, call.prefixLength.toNat ≤ 32 ∧ call.interfaceNum < [interface].length ∧
      ipv4Routes.Aligned call) ∧
    ∃ call, ipv4Routes.LongestMatch twoRoutes dgram.header.dst.toNat call ∧
      ∃ sender, [interface][call.interfaceNum]? = some sender ∧
        let nextHop := call.nextHop.getD (Address.fromIpv4Numeric dgram.header.dst)
        ((twoRoutes.foldl addRoute { interfaces := [interface] }).routeOneDatagram dgram).2 =
          (sender.sendDatagram (forwarded dgram) nextHop).2 := by
  intro interface dgram
  have valid : ∀ call ∈ twoRoutes, call.prefixLength.toNat ≤ 32 ∧ call.interfaceNum < [interface].length ∧
      ipv4Routes.Aligned call := by
    decide
  obtain ⟨sends, _, matching, _⟩ := forwards_by_longest_prefix [interface] twoRoutes valid dgram
  obtain ⟨call, longest⟩ := matching (by decide)
  obtain ⟨sender, present, routed⟩ := sends call longest (by decide)
  exact ⟨valid, call, longest, sender, present, congrArg Prod.snd routed⟩

section HostBits

def Indifferent (before after : List RouteCall) (dst : UInt32) (call : RouteCall) : Prop :=
  ipv4Routes.LongestMatch ((before ++ call :: after).filter fun call => ipv4Routes.Aligned call) dst.toNat call →
    ∃ other, ipv4Routes.LongestMatch ((before ++ after).filter fun call => ipv4Routes.Aligned call) dst.toNat other ∧
      other.action dst = call.action dst

variable {before after : List RouteCall} {call : RouteCall}

theorem fits_without {width : Nat} (fits : ∀ other ∈ before ++ call :: after, ipv4Routes.length other ≤ width) :
    ∀ other ∈ before ++ after, ipv4Routes.length other ≤ width := by
  intro other member
  refine fits other ?_
  rw [List.mem_append] at member ⊢
  exact member.imp_right (List.mem_cons_of_mem _)

theorem search_unaligned (unaligned : ¬ipv4Routes.Aligned call)
    (fits : ∀ other ∈ before ++ call :: after, ipv4Routes.length other ≤ ipv4Routes.width) (address : Nat) :
    ipv4Routes.search (ipv4Routes.installed (before ++ call :: after)) address =
      ipv4Routes.search (ipv4Routes.installed (before ++ after)) address := by
  apply Option.ext
  intro found
  rw [PrefixScheme.search_eq_some_iff fits, PrefixScheme.search_eq_some_iff (fits_without fits), List.filter_append,
    List.filter_cons, if_neg (by simpa using unaligned), List.filter_append]

theorem indifferent_of_unaligned (unaligned : ¬ipv4Routes.Aligned call) (dst : UInt32) :
    Indifferent before after dst call := by
  intro longest
  have member := (PrefixScheme.mem_of_installed longest.installed).1
  exact absurd (by simpa using (List.mem_filter.mp member).2) unaligned

theorem search_insert_iff (fits : ∀ other ∈ before ++ call :: after, ipv4Routes.length other ≤ ipv4Routes.width)
    (dst : UInt32) :
    (ipv4Routes.search (ipv4Routes.installed (before ++ call :: after)) dst.toNat).map (fun call => call.action dst) =
        (ipv4Routes.search (ipv4Routes.installed (before ++ after)) dst.toNat).map (fun call => call.action dst) ↔
      Indifferent before after dst call := by
  have answers := @PrefixScheme.search_eq_some_iff _ _ _ call dst.toNat fits
  have others (other : RouteCall) := @PrefixScheme.search_eq_some_iff _ _ _ other dst.toNat (fits_without fits)
  rw [Indifferent, ← answers]
  simp only [← others]
  rcases PrefixScheme.search_insert before after call dst.toNat with chosen | same
  · rw [chosen, Option.map_some, eq_comm, Option.map_eq_some_iff]
    exact ⟨fun found _ => found, fun found => found rfl⟩
  · rw [same]
    exact iff_of_true rfl fun found => ⟨call, found, rfl⟩

-- The bits below the prefix are no matter only where they are all zero, all lost, or the route has no say.
theorem decision_unchanged_iff (interfaces : List AsyncNetworkInterface) (before after : List RouteCall)
    (call : RouteCall) (routePrefix : UInt32)
    (fits : ∀ other ∈ before ++ call :: after, other.prefixLength.toNat ≤ 32)
    (agree : call.routePrefix.toNat / 2 ^ (32 - call.prefixLength.toNat) =
      routePrefix.toNat / 2 ^ (32 - call.prefixLength.toNat)) (dgram : IPv4Datagram) :
    let replaced := { call with routePrefix }
    ((before ++ call :: after).foldl addRoute { interfaces }).decision dgram =
        ((before ++ replaced :: after).foldl addRoute { interfaces }).decision dgram ↔
      dgram.header.ttl.toNat < 2 ∨ (ipv4Routes.Aligned call ↔ ipv4Routes.Aligned replaced) ∨
        Indifferent before after dgram.header.dst call ∧ Indifferent before after dgram.header.dst replaced := by
  intro replaced
  have fitsReplaced : ∀ other ∈ before ++ replaced :: after, ipv4Routes.length other ≤ ipv4Routes.width := by
    intro other member
    simp only [List.mem_append, List.mem_cons] at member
    rcases member with early | rfl | late
    · exact fits other (List.mem_append_left _ early)
    · exact fits call (List.mem_append_right _ (List.mem_cons_self ..))
    · exact fits other (List.mem_append_right _ (List.mem_cons_of_mem _ late))
  rw [decision_eq, decision_eq]
  by_cases expired : dgram.header.ttl.toNat < 2
  · rw [if_pos expired, if_pos expired]
    exact iff_of_true rfl (.inl expired)
  rw [if_neg expired, if_neg expired, or_iff_right expired]
  by_cases aligned : ipv4Routes.Aligned call <;> by_cases alignedReplaced : ipv4Routes.Aligned replaced
  · -- Two prefixes without host bits that agree above them are the same.
    have whole := Nat.div_mul_cancel (Nat.dvd_of_mod_eq_zero aligned)
    have wholeReplaced := Nat.div_mul_cancel (Nat.dvd_of_mod_eq_zero alignedReplaced)
    have same : call.routePrefix = routePrefix :=
      UInt32.toNat_inj.mp (whole.symm.trans ((congrArg (· * _) agree).trans wholeReplaced))
    have unchanged : replaced = call := by simp only [replaced, ← same]
    simp [unchanged]
  · rw [search_unaligned alignedReplaced fitsReplaced, search_insert_iff fits]
    simp [aligned, alignedReplaced, indifferent_of_unaligned alignedReplaced]
  · rw [search_unaligned aligned fits, eq_comm, search_insert_iff fitsReplaced]
    simp [aligned, alignedReplaced, indifferent_of_unaligned aligned]
  · rw [search_unaligned aligned fits, search_unaligned alignedReplaced fitsReplaced]
    simp [aligned, alignedReplaced]

def hostBitsCall : RouteCall := ⟨0x801e4cff, 16, some ⟨0x801e0001, 0⟩, 6⟩

theorem decision_unchanged_iff_unreached :
    (∀ other ∈ [] ++ hostBitsCall :: [], other.prefixLength.toNat ≤ 32) ∧
      (([] ++ hostBitsCall :: []).foldl addRoute {}).decision { header := { dst := 0x801e0101 } } =
        (([] ++ { hostBitsCall with routePrefix := 0x801e0001 } :: []).foldl addRoute {}).decision
          { header := { dst := 0x801e0101 } } := by
  have fits : ∀ other ∈ [] ++ hostBitsCall :: [], other.prefixLength.toNat ≤ 32 := by decide
  refine ⟨fits, (decision_unchanged_iff [] [] [] hostBitsCall 0x801e0001 fits (by decide) _).mpr (.inr (.inl ?_))⟩
  decide

-- The route of the network simulator for 128.30.0.0/16, as it is written there and without its host bits.
theorem host_bits_hide_route :
    hostBitsCall.routePrefix.toNat / 2 ^ (32 - 16) = (0x801e0000 : UInt32).toNat / 2 ^ (32 - 16) ∧
      (({} : Router).addRoute hostBitsCall).decision { header := { dst := 0x801e0101 } } = none ∧
      (({} : Router).addRoute { hostBitsCall with routePrefix := 0x801e0000 }).decision
        { header := { dst := 0x801e0101 } } = some (6, ⟨0x801e0001, 0⟩) := by
  decide +kernel

end HostBits

end Router

end Sponge
