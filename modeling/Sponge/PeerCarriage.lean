import Sponge.SegmentCarriage

set_option autoImplicit false

namespace Sponge

open Shared

theorem TCPConnection.segmentsOut_step (c : TCPConnection) {event : Event} (kept : event ≠ .transmit) :
    c.segmentsOut <+: (c.step event).segmentsOut := by
  cases event with
  | connect | write data | endInputStream => exact List.prefix_append ..
  | read len | popOutput len => exact List.prefix_refl _
  | transmit => exact absurd rfl kept
  | tick ms =>
      have same : (c.passTime ms).segmentsOut = c.segmentsOut := by rw [passTime_frame]
      simp only [step, tick]
      split
      · exact same ▸ List.prefix_append ..
      · exact same ▸ List.prefix_append ..
  | deliver seg =>
      have noted : c.segmentsOut <+: ((c.accept seg).acknowledge seg).segmentsOut := by
        rw [← (c.accept_eq seg).1]
        simp only [acknowledge]
        split
        · exact List.prefix_append ..
        · exact List.prefix_refl _
      simp only [step, segmentReceived]
      split_ifs
      · exact noted.trans (List.prefix_append ..)
      · rw [closeIfDone_out]
        obtain ⟨new, out, -⟩ := ((c.accept seg).acknowledge seg).answer_out
        exact noted.trans (out ▸ List.prefix_append ..)
      · rw [closeIfDone_out]
        exact noted

section Noted

variable {isn : WrappingInt32} {e : Endpoint} {conn : TCPConnection} (noted : TCPConnection.Noted e.conn conn)
include noted

theorem Endpoint.Sends.thrown (sends : e.Sends isn) : Sends isn { e with conn } := by
  have same : conn.sender = e.conn.sender ∧ conn.segmentsOut = e.conn.segmentsOut := by
    rw [noted.frame]
    exact ⟨rfl, rfl⟩
  refine ⟨?_, ?_, ?_, sends.short⟩ <;> dsimp only [Endpoint.emitted] <;> rw [same.1]
  · exact sends.origin
  · exact sends.sending
  · rw [same.2]
    exact sends.emitted

-- Only a receiver without any room throws at what its peer has sent.
theorem Endpoint.Receives.thrown {stream : Bytes} (receives : e.Receives isn stream) {seg : TCPSegment}
    (throws : e.conn.Throws seg) : Receives isn stream { e with conn } := by
  cases receives with
  | follows a follows delivered => exact absurd throws (TCPConnection.not_throws follows.rel seg)
  | nothing deaf =>
      have stream : conn.receiver.streamOut = e.conn.receiver.streamOut := noted.stream
      exact .nothing ⟨stream ▸ deaf.capacity, stream ▸ deaf.written, deaf.delivered⟩

end Noted

theorem Endpoint.emitted_step (e : Endpoint) (event : Event) : e.emitted ⊆ (e.step event).emitted := by
  by_cases taken : event = .transmit
  · subst taken
    rw [step, transmit_emitted]
    exact List.Subset.refl _
  · have grown := e.conn.segmentsOut_step taken
    have same : (e.step event).wire = e.wire ∧ (e.step event).conn = e.conn.step event := by
      cases event <;> first | exact ⟨rfl, rfl⟩ | exact absurd rfl taken
    rw [emitted, emitted, same.1, same.2]
    exact List.append_subset.mpr ⟨List.subset_append_left .., fun _ queued =>
      List.mem_append_right _ (grown.subset queued)⟩

structure Apart (start : Side → TCPOverIPv4Adapter) : Prop where
  distinct : ∀ side, (start side).config.source ≠ (start side.peer).config.source
  elsewhere : ∀ side, (start side).config.destination ≠ (start side).config.source
  connects : ∀ side, (start side).listening = true → (start side.peer).listening = false
  port : ∀ side, (start side).listening = true →
    (start side).config.destination.port ≠ (start side).config.source.port

def boundTo (peer : TCPOverIPv4Adapter) : TCPOverIPv4Adapter where
  config := { source := peer.config.destination, destination := peer.config.source }
  listening := false

inductive Possible (start : Side → TCPOverIPv4Adapter) (side : Side) (adapter : TCPOverIPv4Adapter) : Prop
  | unchanged (same : adapter = start side)
  | bound (listened : (start side).listening = true)
      (port : (start side.peer).config.destination.port = (start side).config.source.port)
      (same : adapter = boundTo (start side.peer))

structure Parties where
  adapter : Side → TCPOverIPv4Adapter
  tcp : Network

structure MadeBy (start : Side → TCPOverIPv4Adapter) (p : Parties) (side : Side) (made : TCPOverIPv4Adapter)
    (seg : TCPSegment) (dgram : IPv4Datagram) : Prop where
  possible : Possible start side made
  early : (p.adapter side).listening = true → made = start side
  emitted : seg ∈ (p.tcp side).emitted
  compact : Compact seg
  bears : made.Bears seg dgram

/-- Traffic of others: another protocol, a segment that does not pass its checksum, or one for somebody else. -/
def Foreign (start : Side → TCPOverIPv4Adapter) (dgram : IPv4Datagram) : Prop :=
  ∀ seg, TCPOverIPv4Adapter.Content dgram seg → ∀ side, ¬(start side).Claims dgram seg

instance (start : Side → TCPOverIPv4Adapter) : DecidablePred (Foreign start) := fun dgram =>
  have parsed := forall_parsed (P := fun seg => ∀ side, ¬(start side).Claims dgram seg)
  decidable_of_iff (dgram.header.proto = IPv4Header.protoTcp →
      (({} : TCPSegment).parse dgram.payload.concatenate dgram.header.pseudoCksum).1 = .noError →
        ∀ side, ¬(start side).Claims dgram
          (({} : TCPSegment).parse dgram.payload.concatenate dgram.header.pseudoCksum).2)
    ⟨fun foreign seg content => parsed.mp (foreign content.proto) seg content.parsed,
      fun foreign proto => parsed.mpr fun seg found => foreign seg ⟨proto, found⟩⟩

inductive Travels (start : Side → TCPOverIPv4Adapter) (p : Parties) (dgram : IPv4Datagram) : Prop
  | foreign (fits : dgram.FieldsFit) (foreign : Foreign start dgram)
  | sent (side : Side) (made : TCPOverIPv4Adapter) (seg : TCPSegment) (authored : MadeBy start p side made seg dgram)

section Travels

variable {start : Side → TCPOverIPv4Adapter} {p p' : Parties} {dgram : IPv4Datagram}

theorem Foreign.of_same {start : Side → TCPOverIPv4Adapter} {dgram dgram' : IPv4Datagram}
    (foreign : Foreign start dgram)
    (proto : dgram'.header.proto = dgram.header.proto) (src : dgram'.header.src = dgram.header.src)
    (dst : dgram'.header.dst = dgram.header.dst) (pseudo : dgram'.header.pseudoCksum = dgram.header.pseudoCksum)
    (payload : dgram'.payload.concatenate = dgram.payload.concatenate) : Foreign start dgram' := by
  intro seg content side claims
  refine foreign seg ⟨proto ▸ content.proto, ?_⟩ side ⟨claims.dport, ?_⟩
  · rw [← payload, ← pseudo]
    exact content.parsed
  · rw [← src, ← dst]
    exact claims.connected

theorem travels_lasting (start : Side → TCPOverIPv4Adapter) (p : Parties) : Lasting (Travels start p) where
  resent := by
    intro dgram payload arrived travels written parsed
    cases travels with
    | sent side made seg authored =>
        exact .sent side made seg { authored with bears := authored.bears.resent written parsed }
    | foreign fits foreign =>
        rw [IPv4Datagram.resent_eq fits written parsed]
        exact .foreign ⟨fits.hlen, fits.offset⟩ (foreign.of_same rfl rfl rfl
          (IPv4Header.pseudoCksum_with_cksum _ _) (BufferList.concatenate_ofBuffer _))
  forwarded := by
    intro dgram travels
    cases travels with
    | sent side made seg authored => exact .sent side made seg { authored with bears := authored.bears.forwarded }
    | foreign fits foreign => exact .foreign ⟨fits.hlen, fits.offset⟩ (foreign.of_same rfl rfl rfl rfl rfl)

structure Parties.Later (p p' : Parties) : Prop where
  listening : ∀ side, (p'.adapter side).listening = true → (p.adapter side).listening = true
  emitted : ∀ side, (p.tcp side).emitted ⊆ (p'.tcp side).emitted

theorem Parties.Later.trans {p'' : Parties} (later : p.Later p') (last : p'.Later p'') : p.Later p'' :=
  ⟨fun side listens => later.listening side (last.listening side listens),
    fun side _ member => last.emitted side (later.emitted side member)⟩

theorem Travels.later (later : p.Later p') (travels : Travels start p dgram) : Travels start p' dgram := by
  cases travels with
  | foreign fits foreign => exact .foreign fits foreign
  | sent side made seg authored =>
      exact .sent side made seg ⟨authored.possible, fun listens => authored.early (later.listening side listens),
        later.emitted side authored.emitted, authored.compact, authored.bears⟩

end Travels

section Arrival

variable {start : Side → TCPOverIPv4Adapter} {p : Parties} {side : Side} {adapter made : TCPOverIPv4Adapter}
  {seg : TCPSegment} {dgram : IPv4Datagram}

theorem Possible.of_listening (possible : Possible start side adapter) (listens : adapter.listening = true) :
    adapter = start side := by
  cases possible with
  | unchanged same => exact same
  | bound listened port same => simp [same, boundTo] at listens

theorem Possible.of_connecting (possible : Possible start side adapter) (connects : (start side).listening = false) :
    adapter = start side := by
  cases possible with
  | unchanged same => exact same
  | bound listened port same => simp [connects] at listened

theorem Address.ext_of {a b : Address} (ip : a.ip = b.ip) (port : a.port = b.port) : a = b := by
  cases a
  cases b
  simp_all

theorem MadeBy.refused_connected (apart : Apart start) (possible : Possible start side (p.adapter side))
    (connected : (p.adapter side).listening = false) (authored : MadeBy start p side made seg dgram) :
    made.config.source ≠ (p.adapter side).config.destination := by
  intro same
  cases listened : (start side).listening with
  | false =>
      rw [possible.of_connecting listened, authored.possible.of_connecting listened] at same
      exact apart.elsewhere side same.symm
  | true =>
      cases possible with
      | unchanged still => rw [still, listened] at connected; cases connected
      | bound _ _ bound =>
          rw [bound] at same
          cases authored.possible with
          | unchanged early =>
              rw [early] at same
              exact apart.distinct side same
          | bound _ _ late =>
              rw [late] at same
              exact apart.elsewhere side.peer same

structure Arrives (start : Side → TCPOverIPv4Adapter) (p : Parties) (side : Side) (after : TCPOverIPv4Adapter)
    (answer : Option TCPSegment) : Prop where
  possible : Possible start side after
  listening : after.listening = true → (p.adapter side).listening = true
  fromPeer : ∀ seg, answer = some seg → ∃ original ∈ (p.tcp side.peer).emitted,
    ∀ c : TCPConnection, c.segmentReceived seg = c.segmentReceived original

theorem arrives_nothing (possible : Possible start side (p.adapter side)) :
    Arrives start p side (p.adapter side) none :=
  ⟨possible, id, nofun⟩

theorem arrives_listening (apart : Apart start) (possible : Possible start side (p.adapter side))
    (listens : (p.adapter side).listening = true) (contiguous : dgram.payload.Contiguous)
    (travels : Travels start p dgram) :
    ∃ answer, ((p.adapter side).unwrapTcpInIp dgram).2 = .ok answer ∧
      Arrives start p side ((p.adapter side).unwrapTcpInIp dgram).1 answer := by
  have initial := possible.of_listening listens
  rw [TCPOverIPv4Adapter.unwrap_listening listens contiguous]
  cases opened : TCPOverIPv4Adapter.opening (p.adapter side).config dgram with
  | none => exact ⟨none, rfl, arrives_nothing possible⟩
  | some received =>
      rw [TCPOverIPv4Adapter.opening, Option.filter_eq_some_iff] at opened
      simp only [Bool.and_eq_true, decide_eq_true_eq] at opened
      obtain ⟨carried, ⟨dport, -⟩, -⟩ := opened
      cases travels with
      | foreign fits foreign =>
          have content := TCPOverIPv4Adapter.content_of_carried contiguous carried
          refine absurd ⟨?_, fun connected => ?_⟩ (foreign received content side)
          · rw [← initial]
            exact dport
          · rw [← initial, listens] at connected
            cases connected
      | sent author made seg authored =>
          rw [authored.bears.carried authored.compact contiguous] at carried
          cases carried
          rcases side.eq_or_eq_peer author with rfl | rfl
          · -- Its own segments do not go to its own port.
            rw [initial] at dport
            rw [authored.early listens] at dport
            exact absurd dport (apart.port author (initial ▸ listens))
          · have peer := authored.possible.of_connecting (apart.connects side (initial ▸ listens))
            obtain ⟨src, dst, -, -⟩ := authored.bears.addresses
            refine ⟨_, rfl, .bound (initial ▸ listens) ?_ ?_, fun _ => listens, ?_⟩
            · rw [← peer, ← initial]
              exact dport
            · have source : (⟨dgram.header.dst, (p.adapter side).config.source.port⟩ : Address) =
                  (start side.peer).config.destination := by
                rw [← peer]
                exact Address.ext_of dst dport.symm
              have destination : (⟨dgram.header.src, (made.sealedSegment seg).header.sport⟩ : Address) =
                  (start side.peer).config.source := by
                rw [← peer]
                exact Address.ext_of src rfl
              simp only [TCPOverIPv4Adapter.recordPeer, boundTo, source, destination]
            · rintro _ ⟨⟩
              exact ⟨seg, authored.emitted, fun c => made.segmentReceived_sealed c seg⟩

theorem Possible.claims (possible : Possible start side adapter)
    (found : TCPOverIPv4Adapter.Matches adapter.config dgram seg) : (start side).Claims dgram seg := by
  cases possible with
  | unchanged same => exact same ▸ ⟨found.dport, fun _ => ⟨found.dst, found.src, found.sport⟩⟩
  | bound listened port same =>
      rw [same] at found
      exact ⟨found.dport.trans port, fun connects => absurd listened (by rw [connects]; decide)⟩

theorem arrives_connected (apart : Apart start) (possible : Possible start side (p.adapter side))
    (connected : (p.adapter side).listening = false) (contiguous : dgram.payload.Contiguous)
    (travels : Travels start p dgram) :
    ∃ answer, ((p.adapter side).unwrapTcpInIp dgram).2 = .ok answer ∧
      Arrives start p side ((p.adapter side).unwrapTcpInIp dgram).1 answer := by
  rw [TCPOverIPv4Adapter.unwrap_connected connected contiguous]
  refine ⟨_, rfl, possible, id, fun received taken => ?_⟩
  have found := TCPOverIPv4Adapter.matches_of_fromPeer taken
  have carried := found.carries
  cases travels with
  | foreign fits foreign =>
      have content := TCPOverIPv4Adapter.content_of_carried contiguous carried
      exact absurd (possible.claims found) (foreign received content side)
  | sent author made seg authored =>
      rw [authored.bears.carried authored.compact contiguous] at carried
      cases carried
      rcases side.eq_or_eq_peer author with rfl | rfl
      · refine absurd (Address.ext_of ?_ found.sport) (authored.refused_connected apart possible connected)
        exact authored.bears.addresses.1.symm.trans found.src
      · exact ⟨seg, authored.emitted, fun c => made.segmentReceived_sealed c seg⟩

theorem arrives (apart : Apart start) (possible : Possible start side (p.adapter side))
    (contiguous : dgram.payload.Contiguous) (travels : Travels start p dgram) :
    ∃ answer, ((p.adapter side).unwrapTcpInIp dgram).2 = .ok answer ∧
      Arrives start p side ((p.adapter side).unwrapTcpInIp dgram).1 answer := by
  cases listens : (p.adapter side).listening with
  | true => exact arrives_listening apart possible listens contiguous travels
  | false => exact arrives_connected apart possible listens contiguous travels

end Arrival

structure Carries (start : Side → TCPOverIPv4Adapter) (isn : Side → WrappingInt32) (p : Parties) : Prop where
  possible : ∀ side, Possible start side (p.adapter side)
  compact : ∀ side, SegmentLaw.Holds Compact (p.tcp side)
  sound : (∀ side, (p.tcp side).accepted.length < 2 ^ 31 - 2) → p.tcp.Sound isn

section Carries

variable {start : Side → TCPOverIPv4Adapter} {isn : Side → WrappingInt32} {p : Parties} {side : Side}

def Parties.act (p : Parties) (side : Side) (event : Event) : Parties := { p with tcp := p.tcp.step (side, event) }

theorem Parties.act_later (p : Parties) (side : Side) (event : Event) : p.Later (p.act side event) where
  listening := fun _ => id
  emitted := by
    have self := (p.tcp side).emitted_step event
    intro other
    by_cases same : other = side
    · subst same
      simpa [act, Network.step] using self
    · simp [act, Network.step, same]

theorem Carries.act (carries : Carries start isn p) {event : Event}
    (legal : (∀ other, ((p.act side event).tcp other).accepted.length < 2 ^ 31 - 2) → p.tcp.Legal (side, event)) :
    Carries start isn (p.act side event) where
  possible := carries.possible
  compact := by
    intro other
    by_cases same : other = side
    · subst same
      simpa [Parties.act, Network.step] using (carries.compact other).step compact_law event
    · simpa [Parties.act, Network.step, same] using carries.compact other
  sound := by
    intro short
    refine (carries.sound fun other => ?_).step (legal short)
    have longer : (p.tcp other).accepted.length ≤ ((p.act side event).tcp other).accepted.length := by
      by_cases same : other = side
      · subst same
        simpa [Parties.act, Network.step] using ((p.tcp other).step_accepted event).length_le
      · simp [Parties.act, Network.step, same]
    exact lt_of_le_of_lt longer (short other)

def Parties.setConn (p : Parties) (side : Side) (conn : TCPConnection) : Parties :=
  { p with tcp := Function.update p.tcp side { p.tcp side with conn } }

section Throw

variable {conn : TCPConnection} (noted : TCPConnection.Noted (p.tcp side).conn conn)
include noted

theorem Parties.setConn_later : p.Later (p.setConn side conn) where
  listening := fun _ => id
  emitted := by
    have queue : conn.segmentsOut = (p.tcp side).conn.segmentsOut := by rw [noted.frame]
    intro other
    by_cases same : other = side
    · subst same
      simp [setConn, Endpoint.emitted, queue]
    · simp [setConn, same]

theorem Carries.throw (carries : Carries start isn p) {seg : TCPSegment} (throws : (p.tcp side).conn.Throws seg) :
    Carries start isn (p.setConn side conn) where
  possible := carries.possible
  compact := by
    have before := carries.compact side
    have after : SegmentLaw.Holds Compact { p.tcp side with conn } := ⟨before.conn.noted noted, before.wire⟩
    intro other
    by_cases same : other = side
    · subst same
      simpa [Parties.setConn] using after
    · simpa [Parties.setConn, same] using carries.compact other
  sound := by
    have accepted (other : Side) : ((p.setConn side conn).tcp other).accepted = (p.tcp other).accepted := by
      by_cases same : other = side
      · subst same
        simp [Parties.setConn]
      · simp [Parties.setConn, same]
    intro short
    have before := carries.sound fun other => accepted other ▸ short other
    constructor <;> intro other <;> by_cases same : other = side
    · subst same
      simpa [Parties.setConn] using (before.sends other).thrown noted
    · simpa [Parties.setConn, same] using before.sends other
    · subst same
      rw [accepted]
      simpa [Parties.setConn] using (before.receives other).thrown noted throws
    · rw [accepted]
      simpa [Parties.setConn, same] using before.receives other

end Throw

def Parties.rebind (p : Parties) (side : Side) (after : TCPOverIPv4Adapter) : Parties :=
  { p with adapter := Function.update p.adapter side after }

theorem Parties.rebind_later {after : TCPOverIPv4Adapter}
    (listening : after.listening = true → (p.adapter side).listening = true) : p.Later (p.rebind side after) where
  listening := by
    intro other
    by_cases same : other = side
    · subst same
      simpa [rebind] using listening
    · simp [rebind, same]
  emitted := fun _ => List.Subset.refl _

theorem Carries.rebind (carries : Carries start isn p) {after : TCPOverIPv4Adapter}
    (possible : Possible start side after) : Carries start isn (p.rebind side after) where
  possible := by
    intro other
    by_cases same : other = side
    · subst same
      simpa [Parties.rebind] using possible
    · simpa [Parties.rebind, same] using carries.possible other
  compact := carries.compact
  sound := carries.sound

end Carries

end Sponge
