import Sponge.TCPOverIPv4

set_option autoImplicit false

namespace Sponge

namespace TCPOverIPv4Adapter

def carried (ipDgram : IPv4Datagram) : Option TCPSegment :=
  if ipDgram.header.proto = IPv4Header.protoTcp then
    match ipDgram.payload.toBuffer with
    | .error _ => none
    | .ok buffer =>
        match ({} : TCPSegment).parse buffer ipDgram.header.pseudoCksum with
        | (.noError, tcpSeg) => some tcpSeg
        | _ => none
  else none

def opening (config : FdAdapterConfig) (ipDgram : IPv4Datagram) : Option TCPSegment :=
  (carried ipDgram).filter fun tcpSeg =>
    tcpSeg.header.dport = config.source.port && tcpSeg.header.syn && !tcpSeg.header.rst

def fromPeer (config : FdAdapterConfig) (ipDgram : IPv4Datagram) : Option TCPSegment :=
  (carried ipDgram).filter fun tcpSeg =>
    ipDgram.header.dst = config.source.ip && ipDgram.header.src = config.destination.ip &&
      tcpSeg.header.dport = config.source.port && tcpSeg.header.sport = config.destination.port

theorem unwrap_listening {self : TCPOverIPv4Adapter} (listening : self.listening = true) {ipDgram : IPv4Datagram}
    (contiguous : ipDgram.payload.Contiguous) :
    self.unwrapTcpInIp ipDgram =
      match opening self.config ipDgram with
      | some tcpSeg => (self.recordPeer ipDgram tcpSeg, .ok (some tcpSeg))
      | none => (self, .ok none) := by
  by_cases proto : ipDgram.header.proto = IPv4Header.protoTcp
  case neg => simp [unwrapTcpInIp, opening, carried, listening, proto]
  simp only [unwrapTcpInIp, opening, carried, listening, proto, BufferList.toBuffer_of_contiguous contiguous]
  cases ({} : TCPSegment).parse ipDgram.payload.concatenate ipDgram.header.pseudoCksum with
  | mk result tcpSeg =>
      cases result
      case noError =>
        by_cases dport : tcpSeg.header.dport = self.config.source.port <;>
          by_cases opens : tcpSeg.header.syn = true ∧ tcpSeg.header.rst = false <;>
          simp [Option.filter, checkPeer, recordPeer, dport, opens]
      all_goals simp

theorem unwrap_connected {self : TCPOverIPv4Adapter} (connected : self.listening = false) {ipDgram : IPv4Datagram}
    (contiguous : ipDgram.payload.Contiguous) :
    self.unwrapTcpInIp ipDgram = (self, .ok (fromPeer self.config ipDgram)) := by
  by_cases proto : ipDgram.header.proto = IPv4Header.protoTcp
  case neg => simp [unwrapTcpInIp, fromPeer, carried, connected, proto]
  simp only [unwrapTcpInIp, fromPeer, carried, connected, proto, BufferList.toBuffer_of_contiguous contiguous]
  cases ({} : TCPSegment).parse ipDgram.payload.concatenate ipDgram.header.pseudoCksum with
  | mk result tcpSeg =>
      cases result
      case noError =>
        by_cases dst : ipDgram.header.dst = self.config.source.ip <;>
          by_cases src : ipDgram.header.src = self.config.destination.ip <;>
          by_cases dport : tcpSeg.header.dport = self.config.source.port <;>
          by_cases sport : tcpSeg.header.sport = self.config.destination.port <;>
          simp [Option.filter, Address.ipv4Numeric, checkPeer, dst, src, dport, sport]
      all_goals simp

def unwrapAll (self : TCPOverIPv4Adapter) (dgrams : List IPv4Datagram) : TCPOverIPv4Adapter :=
  dgrams.foldl (fun adapter ipDgram => (adapter.unwrapTcpInIp ipDgram).1) self

theorem unwrapAll_append (self : TCPOverIPv4Adapter) (front back : List IPv4Datagram) :
    self.unwrapAll (front ++ back) = (self.unwrapAll front).unwrapAll back := List.foldl_append

theorem unwrapAll_connected {self : TCPOverIPv4Adapter} (connected : self.listening = false)
    {dgrams : List IPv4Datagram} (contiguous : ∀ ipDgram ∈ dgrams, ipDgram.payload.Contiguous) :
    self.unwrapAll dgrams = self := by
  induction dgrams with
  | nil => rfl
  | cons ipDgram rest ih =>
      rw [List.forall_mem_cons] at contiguous
      have step := unwrap_connected connected contiguous.1
      rw [unwrapAll, List.foldl_cons, step]
      exact ih contiguous.2

def firstPeer (self : TCPOverIPv4Adapter) (dgrams : List IPv4Datagram) : Option TCPOverIPv4Adapter :=
  dgrams.findSome? fun ipDgram => (opening self.config ipDgram).map (self.recordPeer ipDgram)

theorem unwrapAll_listening {self : TCPOverIPv4Adapter} (listening : self.listening = true)
    {dgrams : List IPv4Datagram} (contiguous : ∀ ipDgram ∈ dgrams, ipDgram.payload.Contiguous) :
    self.unwrapAll dgrams = (self.firstPeer dgrams).getD self := by
  induction dgrams with
  | nil => rfl
  | cons ipDgram rest ih =>
      rw [List.forall_mem_cons] at contiguous
      have step := unwrap_listening listening contiguous.1
      rw [unwrapAll, List.foldl_cons, step, firstPeer, List.findSome?_cons]
      cases opening self.config ipDgram with
      | none => exact ih contiguous.2
      | some tcpSeg => exact unwrapAll_connected rfl contiguous.2

structure Matches (config : FdAdapterConfig) (ipDgram : IPv4Datagram) (tcpSeg : TCPSegment) : Prop where
  carries : carried ipDgram = some tcpSeg
  src : ipDgram.header.src = config.destination.ip
  dst : ipDgram.header.dst = config.source.ip
  sport : tcpSeg.header.sport = config.destination.port
  dport : tcpSeg.header.dport = config.source.port

theorem matches_of_fromPeer {config : FdAdapterConfig} {ipDgram : IPv4Datagram} {tcpSeg : TCPSegment}
    (found : fromPeer config ipDgram = some tcpSeg) : Matches config ipDgram tcpSeg := by
  rw [fromPeer, Option.filter_eq_some_iff] at found
  simp only [Bool.and_eq_true, decide_eq_true_eq] at found
  obtain ⟨carries, ⟨⟨dst, src⟩, dport⟩, sport⟩ := found
  exact ⟨carries, src, dst, sport, dport⟩

theorem matches_of_opening {self : TCPOverIPv4Adapter} {ipDgram : IPv4Datagram} {tcpSeg : TCPSegment}
    (found : opening self.config ipDgram = some tcpSeg) :
    Matches (self.recordPeer ipDgram tcpSeg).config ipDgram tcpSeg := by
  rw [opening, Option.filter_eq_some_iff] at found
  simp only [Bool.and_eq_true, decide_eq_true_eq] at found
  exact ⟨found.1, rfl, rfl, rfl, found.2.1.1⟩

structure CallResult (start before : TCPOverIPv4Adapter) (front : List IPv4Datagram) (ipDgram : IPv4Datagram)
    (after : TCPOverIPv4Adapter) (answer : Option TCPSegment) : Prop where
  records : (after.config ≠ before.config ∨ after.listening ≠ before.listening) →
    (∀ earlier ∈ front, opening start.config earlier = none) ∧ (opening start.config ipDgram).isSome
  returned : ∀ tcpSeg, answer = some tcpSeg → Matches after.config ipDgram tcpSeg ∧ after.listening = false
  refused : answer = none → after = before

theorem callResult {start : TCPOverIPv4Adapter} (listening : start.listening = true) {front : List IPv4Datagram}
    {ipDgram : IPv4Datagram} (contiguous : ∀ earlier ∈ front, earlier.payload.Contiguous)
    (whole : ipDgram.payload.Contiguous) :
    ∃ after answer, (start.unwrapAll front).unwrapTcpInIp ipDgram = (after, .ok answer) ∧
      CallResult start (start.unwrapAll front) front ipDgram after answer := by
  rw [unwrapAll_listening listening contiguous]
  cases recorded : start.firstPeer front with
  | none =>
      have waiting : ∀ earlier ∈ front, opening start.config earlier = none := by
        simpa [firstPeer, List.findSome?_eq_none_iff] using recorded
      have step := unwrap_listening listening whole
      cases opened : opening start.config ipDgram with
      | none =>
          rw [opened] at step
          exact ⟨start, none, step, by simp, by simp, fun _ => rfl⟩
      | some tcpSeg =>
          rw [opened] at step
          refine ⟨_, some tcpSeg, step, fun _ => ⟨waiting, by simp [opened]⟩, ?_, by simp⟩
          rintro _ ⟨⟩
          exact ⟨matches_of_opening opened, rfl⟩
  | some bound =>
      have connected : bound.listening = false := by
        obtain ⟨earlier, _, found⟩ := List.exists_of_findSome?_eq_some recorded
        obtain ⟨tcpSeg, _, rfl⟩ := Option.map_eq_some_iff.mp found
        rfl
      refine ⟨bound, fromPeer bound.config ipDgram, unwrap_connected connected whole, ?_, ?_, ?_⟩
      · intro changed
        simp at changed
      · intro tcpSeg found
        exact ⟨matches_of_fromPeer found, connected⟩
      · intro _
        rfl

theorem adapter_binds_once (start : TCPOverIPv4Adapter) (listening : start.listening = true)
    (dgrams : List IPv4Datagram) (contiguous : ∀ ipDgram ∈ dgrams, ipDgram.payload.Contiguous) :
    start.unwrapAll dgrams = (start.firstPeer dgrams).getD start ∧
      ∀ front ipDgram back, dgrams = front ++ ipDgram :: back →
        ∃ after answer, (start.unwrapAll front).unwrapTcpInIp ipDgram = (after, .ok answer) ∧
          (after.config ≠ (start.unwrapAll front).config ∨ after.listening ≠ (start.unwrapAll front).listening →
            (∀ earlier ∈ front, opening start.config earlier = none) ∧ (opening start.config ipDgram).isSome) ∧
          (∀ tcpSeg, answer = some tcpSeg → Matches (start.unwrapAll dgrams).config ipDgram tcpSeg) ∧
          (answer = none → after.config = (start.unwrapAll front).config ∧
            after.listening = (start.unwrapAll front).listening) := by
  refine ⟨unwrapAll_listening listening contiguous, ?_⟩
  rintro front ipDgram back rfl
  rw [List.forall_mem_append, List.forall_mem_cons] at contiguous
  obtain ⟨after, answer, step, result⟩ := callResult listening contiguous.1 contiguous.2.1
  refine ⟨after, answer, step, result.records, ?_, ?_⟩
  · -- A segment is returned by a connected adapter, and nothing changes that any more.
    intro tcpSeg found
    obtain ⟨same, connected⟩ := result.returned tcpSeg found
    have final : start.unwrapAll (front ++ ipDgram :: back) = after.unwrapAll back := by
      rw [unwrapAll_append]
      exact congrArg (fun called => called.1.unwrapAll back) step
    rw [final, unwrapAll_connected connected contiguous.2.2]
    exact same
  · intro refused
    rw [result.refused refused]
    exact ⟨rfl, rfl⟩

def sampleListener : TCPOverIPv4Adapter where
  config := { source := ⟨0, 80⟩ }
  listening := true

def sampleDgrams : List IPv4Datagram :=
  [sampleClient.arrived sampleSegment, sampleClient.arrived { header := { syn := true } }]

theorem adapter_binds_once_sample :
    sampleListener.unwrapAll sampleDgrams = (sampleListener.firstPeer sampleDgrams).getD sampleListener ∧
      (sampleListener.firstPeer sampleDgrams).map (fun bound => bound.config) = some sampleServer.config := by
  have bound := adapter_binds_once sampleListener rfl sampleDgrams (by decide)
  exact ⟨bound.1, by decide +kernel⟩

end TCPOverIPv4Adapter

end Sponge
