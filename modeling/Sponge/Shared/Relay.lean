import Mathlib.Data.List.Pairwise
import Mathlib.Logic.Relation
import Sponge.Shared.Resolution

set_option autoImplicit false

namespace Shared

/-- Hosts around a relay: each link joins one of its ports with some hosts, and what a port receives is sent on. -/
structure Star (S K V : Type) where
  address : S → K
  links : List (S × List S)
  -- Through which port, to which address, and in which form.
  forward : V → Option (S × K × V)
  origin : V → K

namespace Star

open Resolver

variable {S K V : Type}

def members (link : S × List S) : List S := link.1 :: link.2

def Host (star : Star S K V) (station : S) : Prop := ∃ link ∈ star.links, station ∈ link.2

structure Proper (star : Star S K V) : Prop where
  injective : Function.Injective star.address
  distinct : (star.links.flatMap members).Nodup
  through : ∀ item port key next, star.forward item = some (port, key, next) → ¬star.Host port
  lasting : ∀ item port key next, star.forward item = some (port, key, next) → star.origin next = star.origin item

section Links

variable {star : Star S K V} (proper : star.Proper) {link other : S × List S} {station : S}
include proper

theorem Proper.nodup (present : link ∈ star.links) : (members link).Nodup :=
  (List.nodup_flatMap.mp proper.distinct).1 link present

theorem Proper.link_unique (present : link ∈ star.links) (also : other ∈ star.links) (here : station ∈ members link)
    (there : station ∈ members other) : link = other := by
  have disjoint := (List.nodup_flatMap.mp proper.distinct).2
  have : Std.Symm (Function.onFun List.Disjoint (members (S := S))) :=
    ⟨fun _ _ apart _ here there => apart there here⟩
  by_contra apart
  exact disjoint.forall present also apart here there

theorem Proper.port_not_host (present : link ∈ star.links) : ¬star.Host link.1 := by
  rintro ⟨other, also, host⟩
  have same := proper.link_unique present also List.mem_cons_self (List.mem_cons_of_mem _ host)
  subst same
  exact (List.nodup_cons.mp (proper.nodup present)).1 host

theorem Proper.host_ne_port (present : link ∈ star.links) (host : station ∈ link.2) : station ≠ link.1 := by
  rintro rfl
  exact (List.nodup_cons.mp (proper.nodup present)).1 host

end Links

variable [DecidableEq S] [DecidableEq K]

def pop (group : S → Resolver S K V) (port : S) : S → Resolver S K V :=
  Function.update group port { group port with inbox := (group port).inbox.tail }

inductive Relay (star : Star S K V) (group : S → Resolver S K V) : (S → Resolver S K V) → Prop
  | dropped {port : S} {entry : S × V} {rest : List (S × V)} (atPort : ¬star.Host port)
      (front : (group port).inbox = entry :: rest) (nowhere : star.forward entry.2 = none) :
      Relay star group (pop group port)
  | passed {port out : S} {key : K} {next : V} {entry : S × V} {rest : List (S × V)} (atPort : ¬star.Host port)
      (front : (group port).inbox = entry :: rest) (onward : star.forward entry.2 = some (out, key, next))
      {asks : Bool} (legal : asks = true ∨ Deferral.itemsFor key (group out).deferral.waiting ≠ []) :
      Relay star group (pop (Function.update group out ((group out).submit out key next asks)) port)

inductive Move (star : Star S K V) (group : S → Resolver S K V) : List (S × V) → (S → Resolver S K V) → Prop
  | send {link : S × List S} (present : link ∈ star.links) {host : S} (homed : host ∈ link.2) {item : V}
      (own : star.origin item = star.address host) {asks : Bool}
      (legal : asks = true ∨ Deferral.itemsFor (star.address link.1) (group host).deferral.waiting ≠ []) :
      Move star group [(host, item)]
        (Function.update group host ((group host).submit host (star.address link.1) item asks))
  | forget (me : S) (gone : K → Bool) : Move star group [] (Function.update group me ((group me).forget me gone))
  | relay {after : S → Resolver S K V} (relayed : Relay star group after) : Move star group [] after
  | exchange {link : S × List S} (present : link ∈ star.links) :
      Move star group [] (Shared.exchange star.address (members link) group)

inductive Moves (star : Star S K V) : (S → Resolver S K V) → List (S × V) → (S → Resolver S K V) → Prop
  | nil (group : S → Resolver S K V) : Moves star group [] group
  | cons {group next after : S → Resolver S K V} {first rest : List (S × V)} (move : Move star group first next)
      (moves : Moves star next rest after) : Moves star group (first ++ rest) after

theorem Moves.trans {star : Star S K V} {group next after : S → Resolver S K V} {first rest : List (S × V)}
    (moves : Moves star group first next) (more : Moves star next rest after) :
    Moves star group (first ++ rest) after := by
  induction moves with
  | nil => exact more
  | cons move _ ih =>
      rw [List.append_assoc]
      exact .cons move (ih more)

structure Orderly (star : Star S K V) (group : S → Resolver S K V) : Prop where
  good : ∀ station, (group station).Good star.address station
  asked : ∀ link ∈ star.links, ∀ sender ∈ members link, ∀ receiver ∈ members link, sender ≠ receiver →
    Asked star.address group sender receiver
  -- The hosts send to their port only, and only what is their own.
  direct : ∀ link ∈ star.links, ∀ host ∈ link.2, ∀ other ≠ link.1, ledger star.address group host other = []
  own : ∀ link ∈ star.links, ∀ host ∈ link.2, ∀ item ∈ ledger star.address group host link.1,
    star.origin item = star.address host
  relayed : ∀ link ∈ star.links, ∀ host ∈ link.2, ∀ item ∈ ledger star.address group link.1 host,
    ∃ source, star.Host source ∧ star.origin item = star.address source
  -- So a host hears from its port only, and a port from the hosts of its link.
  fromPort : ∀ link ∈ star.links, ∀ host ∈ link.2, ∀ entry ∈ (group host).inbox, entry.1 = link.1
  fromHost : ∀ port, ¬star.Host port → ∀ entry ∈ (group port).inbox,
    ∃ link ∈ star.links, port = link.1 ∧ entry.1 ∈ link.2

section Steps

variable {star : Star S K V} {group : S → Resolver S K V}

omit [DecidableEq K] in
theorem pop_inbox (group : S → Resolver S K V) (port station : S) :
    (pop group port station).inbox = if station = port then (group station).inbox.tail else (group station).inbox := by
  by_cases same : station = port
  · subst same
    simp [pop]
  · simp [pop, same]

omit [DecidableEq K] in
theorem pop_deferral (group : S → Resolver S K V) (port station : S) :
    (pop group port station).deferral = (group station).deferral := by
  by_cases same : station = port
  · subst same
    simp [pop]
  · simp [pop, same]

omit [DecidableEq K] in
theorem pop_out (group : S → Resolver S K V) (port station : S) :
    (pop group port station).out = (group station).out := by
  by_cases same : station = port
  · subst same
    simp [pop]
  · simp [pop, same]

omit [DecidableEq K] in
theorem pop_good (good : ∀ station, (group station).Good star.address station) (port station : S) :
    (pop group port station).Good star.address station := by
  obtain ⟨settled, truthful, signed⟩ := good station
  exact ⟨by rwa [pop_deferral], by rwa [pop_deferral], by rwa [pop_out]⟩

theorem ledger_pop (group : S → Resolver S K V) (port sender receiver : S) :
    ledger star.address (pop group port) sender receiver =
      Deferral.itemsFor sender (pop group port receiver).inbox ++ (dataFor receiver (group sender).out ++
        Deferral.itemsFor (star.address receiver) (group sender).deferral.waiting) := by
  rw [ledger, pop_out, pop_deferral]

theorem ledger_pop_sublist (group : S → Resolver S K V) (port sender receiver : S) :
    (ledger star.address (pop group port) sender receiver).Sublist (ledger star.address group sender receiver) := by
  rw [ledger_pop, ledger]
  refine List.Sublist.append_right (List.Sublist.filterMap _ ?_) _
  rw [pop_inbox]
  split
  · exact List.tail_sublist _
  · exact List.Sublist.refl _

theorem Orderly.shrink (orderly : star.Orderly group) {after : S → Resolver S K V}
    (good : ∀ station, (after station).Good star.address station)
    (asked : ∀ link ∈ star.links, ∀ sender ∈ members link, ∀ receiver ∈ members link, sender ≠ receiver →
      Asked star.address after sender receiver)
    (less : ∀ link ∈ star.links, ∀ host ∈ link.2, ∀ other,
      (ledger star.address after host other).Sublist (ledger star.address group host other))
    (relayed : ∀ link ∈ star.links, ∀ host ∈ link.2, ∀ item ∈ ledger star.address after link.1 host,
      item ∈ ledger star.address group link.1 host ∨
        ∃ source, star.Host source ∧ star.origin item = star.address source)
    (fromPort : ∀ link ∈ star.links, ∀ host ∈ link.2, ∀ entry ∈ (after host).inbox,
      entry ∈ (group host).inbox ∨ entry.1 = link.1)
    (fromHost : ∀ port, ¬star.Host port → ∀ entry ∈ (after port).inbox,
      entry ∈ (group port).inbox ∨ ∃ link ∈ star.links, port = link.1 ∧ entry.1 ∈ link.2) :
    star.Orderly after where
  good := good
  asked := asked
  direct := fun link present host homed other elsewhere =>
    List.sublist_nil.mp (orderly.direct link present host homed other elsewhere ▸ less link present host homed other)
  own := fun link present host homed item held =>
    orderly.own link present host homed item ((less link present host homed _).subset held)
  relayed := fun link present host homed item held =>
    (relayed link present host homed item held).elim (orderly.relayed link present host homed item) id
  fromPort := fun link present host homed entry received =>
    (fromPort link present host homed entry received).elim (orderly.fromPort link present host homed entry) id
  fromHost := fun port atPort entry received =>
    (fromHost port atPort entry received).elim (orderly.fromHost port atPort entry) id

variable (proper : star.Proper) (orderly : star.Orderly group)
include proper orderly

theorem Orderly.exchange {link : S × List S} (present : link ∈ star.links) :
    star.Orderly (Shared.exchange star.address (members link) group) := by
  have distinct := proper.nodup present
  have less := exchange_ledger_sublist proper.injective orderly.good distinct
  refine orderly.shrink (exchange_good proper.injective orderly.good) ?_ (fun _ _ _ _ _ => less _ _)
    (fun _ _ _ _ item held => .inl ((less _ _).subset held)) ?_ ?_
  · intro other also sender sends receiver receives apart
    by_cases here : sender ∈ members link
    · have same := proper.link_unique present also here sends
      subst same
      have answered := exchange_answered proper.injective orderly.good sends receives apart
        (orderly.asked link present sender sends receiver receives apart)
      exact fun waits => .inr (answered waits)
    · have there : receiver ∉ members link := fun there =>
        here (proper.link_unique present also there receives ▸ sends)
      rw [Asked, exchange_outside here, exchange_outside there]
      exact orderly.asked other also sender sends receiver receives apart
  · intro other also host homed entry received
    refine (mem_exchange_inbox proper.injective orderly.good received).imp_right fun new => ?_
    obtain ⟨here, from', apart, data⟩ := new
    have same := proper.link_unique present also here (List.mem_cons_of_mem _ homed)
    subst same
    -- The other hosts of the link have nothing for this one.
    refine (List.mem_cons.mp from').resolve_right fun neighbour => ?_
    have nothing := orderly.direct link present entry.1 neighbour host (proper.host_ne_port present homed)
    rw [ledger, List.append_eq_nil_iff, List.append_eq_nil_iff] at nothing
    exact List.not_mem_nil (nothing.2.1 ▸ data)
  · intro port atPort entry received
    refine (mem_exchange_inbox proper.injective orderly.good received).imp_right fun new => ?_
    obtain ⟨here, from', apart, -⟩ := new
    have same : port = link.1 := (List.mem_cons.mp here).resolve_right fun host => atPort ⟨link, present, host⟩
    exact ⟨link, present, same, (List.mem_cons.mp from').resolve_left fun also => apart (also.trans same.symm)⟩

theorem Orderly.forget (me : S) (gone : K → Bool) :
    star.Orderly (Function.update group me ((group me).forget me gone)) := by
  have same (sender receiver : S) :
      ledger star.address (Function.update group me ((group me).forget me gone)) sender receiver =
        ledger star.address group sender receiver := by
    have tells : Tells star.address (.forget gone : DeferralOp K V S) := trivial
    rw [Resolver.forget, ledger_act proper.injective orderly.good tells fun _ => rfl]
    simp [Deferral.submittedFor]
  have inbox (station : S) := (update_grows (forget_grows me (group me) gone) station).inbox
  refine orderly.shrink (update_good orderly.good ((orderly.good me).forget gone)) ?_ ?_ ?_ ?_ ?_
  · exact fun link present sender sends receiver receives apart =>
      (orderly.asked link present sender sends receiver receives apart).forget me gone
  · exact fun link _ host _ other => same host other ▸ List.Sublist.refl _
  · exact fun link _ host _ item held => .inl (same _ _ ▸ held)
  · exact fun link _ host _ entry received => .inl (inbox host ▸ received)
  · exact fun port _ entry received => .inl (inbox port ▸ received)

theorem Orderly.send {link : S × List S} (present : link ∈ star.links) {host : S} (homed : host ∈ link.2) {item : V}
    (own : star.origin item = star.address host) {asks : Bool}
    (legal : asks = true ∨ Deferral.itemsFor (star.address link.1) (group host).deferral.waiting ≠ []) :
    star.Orderly (Function.update group host ((group host).submit host (star.address link.1) item asks)) := by
  have grown (sender receiver : S) :=
    @ledger_submit _ _ _ _ _ star.address group sender receiver proper.injective orderly.good host
      (star.address link.1) item asks
  have inbox (station : S) :=
    (update_grows (submit_grows host (group host) (star.address link.1) item asks) station).inbox
  have onlyLink {other : S × List S} (also : other ∈ star.links) (homedThere : host ∈ other.2) : link = other :=
    proper.link_unique present also (List.mem_cons_of_mem _ homed) (List.mem_cons_of_mem _ homedThere)
  constructor
  · exact update_good orderly.good ((orderly.good host).submit _ item asks)
  · exact fun link present sender sends receiver receives apart =>
      (orderly.asked link present sender sends receiver receives apart).submit legal item
  · intro other also sender homedThere receiver elsewhere
    rw [grown, orderly.direct other also sender homedThere receiver elsewhere, List.nil_append, if_neg]
    rintro ⟨rfl, same⟩
    rw [onlyLink also homedThere] at same
    exact elsewhere (proper.injective same).symm
  · intro other also sender homedThere sent held
    rw [grown, List.mem_append] at held
    rcases held with before | new
    · exact orderly.own other also sender homedThere sent before
    · split at new
      next mine => rw [List.mem_singleton.mp new, own, mine.1]
      next => cases new
  · intro other also receiver homedThere sent held
    have apart : ¬(other.1 = host ∧ star.address link.1 = star.address receiver) := by
      rintro ⟨rfl, -⟩
      exact proper.port_not_host also ⟨link, present, homed⟩
    rw [grown, if_neg apart, List.append_nil] at held
    exact orderly.relayed other also receiver homedThere sent held
  · exact fun other also station homedThere entry received =>
      orderly.fromPort other also station homedThere entry (inbox station ▸ received)
  · exact fun port atPort entry received => orderly.fromHost port atPort entry (inbox port ▸ received)

omit proper in
theorem Orderly.pop (port : S) : star.Orderly (Star.pop group port) := by
  have fewer (station : S) : ∀ entry ∈ (Star.pop group port station).inbox, entry ∈ (group station).inbox := by
    intro entry received
    rw [pop_inbox] at received
    split at received
    · exact List.mem_of_mem_tail received
    · exact received
  refine orderly.shrink (pop_good orderly.good port) ?_ (fun _ _ _ _ _ => ledger_pop_sublist ..)
    (fun _ _ _ _ _ held => .inl ((ledger_pop_sublist ..).subset held))
    (fun _ _ host _ entry received => .inl (fewer host entry received))
    fun station _ entry received => .inl (fewer station entry received)
  intro link present sender sends receiver receives apart
  rw [Asked, pop_deferral, pop_out, pop_out]
  exact orderly.asked link present sender sends receiver receives apart

theorem Orderly.passOn {out : S} (atPort : ¬star.Host out) {item : V}
    (hosted : ∃ source, star.Host source ∧ star.origin item = star.address source) (key : K) {asks : Bool}
    (legal : asks = true ∨ Deferral.itemsFor key (group out).deferral.waiting ≠ []) :
    star.Orderly (Function.update group out ((group out).submit out key item asks)) := by
  have grown (sender receiver : S) :=
    @ledger_submit _ _ _ _ _ star.address group sender receiver proper.injective orderly.good out key item asks
  have inbox (station : S) := (update_grows (submit_grows out (group out) key item asks) station).inbox
  refine orderly.shrink (update_good orderly.good ((orderly.good out).submit key item asks)) ?_ ?_ ?_ ?_ ?_
  · exact fun link present sender sends receiver receives apart =>
      (orderly.asked link present sender sends receiver receives apart).submit legal item
  · intro link present host homed other
    have apart : ¬(host = out ∧ key = star.address other) := by
      rintro ⟨rfl, -⟩
      exact atPort ⟨link, present, homed⟩
    rw [grown, if_neg apart, List.append_nil]
  · intro link present host homed sent held
    rw [grown, List.mem_append] at held
    refine held.imp_right fun new => ?_
    split at new
    · rw [List.mem_singleton.mp new]
      exact hosted
    · cases new
  · exact fun link _ host _ entry received => .inl (inbox host ▸ received)
  · exact fun port _ entry received => .inl (inbox port ▸ received)

omit proper in
theorem Orderly.received_own {port : S} (atPort : ¬star.Host port) {entry : S × V}
    (received : entry ∈ (group port).inbox) :
    ∃ link ∈ star.links, port = link.1 ∧ entry.1 ∈ link.2 ∧ star.origin entry.2 = star.address entry.1 := by
  obtain ⟨link, present, rfl, homed⟩ := orderly.fromHost port atPort entry received
  refine ⟨link, present, rfl, homed, orderly.own link present entry.1 homed entry.2 ?_⟩
  exact List.mem_append_left _ (List.mem_filterMap.mpr ⟨entry, received, if_pos rfl⟩)

theorem Orderly.relay {after : S → Resolver S K V} (relayed : Relay star group after) : star.Orderly after := by
  cases relayed with
  | dropped _ _ _ => exact orderly.pop _
  | @passed port out key next entry rest atPort front onward asks legal =>
      obtain ⟨link, present, -, homed, own⟩ := orderly.received_own atPort (front ▸ List.mem_cons_self)
      have hosted : ∃ source, star.Host source ∧ star.origin next = star.address source :=
        ⟨entry.1, ⟨link, present, homed⟩, (proper.lasting _ _ _ _ onward).trans own⟩
      exact (orderly.passOn proper (proper.through _ _ _ _ onward) hosted key legal).pop port

theorem Orderly.move {sent : List (S × V)} {after : S → Resolver S K V} (move : Move star group sent after) :
    star.Orderly after := by
  cases move with
  | send present homed own legal => exact orderly.send proper present homed own legal
  | forget me gone => exact orderly.forget proper me gone
  | relay relayed => exact orderly.relay proper relayed
  | exchange present => exact orderly.exchange proper present

omit orderly in
theorem Orderly.moves {start after : S → Resolver S K V} (orderly : star.Orderly start) {sent : List (S × V)}
    (moves : Moves star start sent after) : star.Orderly after := by
  induction moves with
  | nil => exact orderly
  | cons move _ ih => exact ih (orderly.move proper move)

end Steps

section Flow

variable {star : Star S K V} {group : S → Resolver S K V}

def reaches (star : Star S K V) (down : S × List S) (target : S) (item : V) : Option V :=
  (star.forward item).bind fun onward =>
    if onward.1 = down.1 ∧ onward.2.1 = star.address target then some onward.2.2 else none

def flow (star : Star S K V) (group : S → Resolver S K V) (up : S × List S) (source : S) (down : S × List S)
    (target : S) : List V :=
  (ledger star.address group down.1 target).filter (fun item => star.origin item = star.address source) ++
    (ledger star.address group source up.1).filterMap (star.reaches down target)

theorem ledger_pop_elsewhere (group : S → Resolver S K V) {port receiver : S} (elsewhere : receiver ≠ port)
    (sender : S) :
    ledger star.address (pop group port) sender receiver = ledger star.address group sender receiver := by
  rw [ledger_pop, pop_inbox, if_neg elsewhere, ledger]

theorem ledger_pop_front {port : S} {entry : S × V} {rest : List (S × V)}
    (front : (group port).inbox = entry :: rest) (sender : S) :
    ledger star.address group sender port =
      (if entry.1 = sender then [entry.2] else []) ++ ledger star.address (pop group port) sender port := by
  rw [ledger_pop, pop_inbox, if_pos rfl, ledger, front, Deferral.itemsFor_cons, List.tail_cons]
  split <;> rfl

variable (proper : star.Proper) (orderly : star.Orderly group)
include proper orderly

theorem ledger_exchange {link other : S × List S} (present : link ∈ star.links) (also : other ∈ star.links)
    {sender receiver : S} (sends : sender ∈ members other) (receives : receiver ∈ members other)
    (apart : sender ≠ receiver) :
    ledger star.address (Shared.exchange star.address (members link) group) sender receiver =
      ledger star.address group sender receiver := by
  by_cases same : link = other
  · subst same
    exact exchange_ledger proper.injective orderly.good (proper.nodup present) sends receives apart
  · have outside {station : S} (there : station ∈ members other) : station ∉ members link := fun here =>
      same (proper.link_unique present also here there)
    rw [ledger, exchange_outside (outside sends), exchange_outside (outside receives), ledger]

variable {up down : S × List S} {source target : S} (upward : up ∈ star.links) (homed : source ∈ up.2)
  (downward : down ∈ star.links) (there : target ∈ down.2)
include upward homed downward there

theorem flow_relay {after : S → Resolver S K V} (relayed : Relay star group after) :
    star.flow after up source down target = star.flow group up source down target := by
  have notTarget {port : S} (atPort : ¬star.Host port) : target ≠ port := by
    rintro rfl
    exact atPort ⟨down, downward, there⟩
  -- If the source made what is in front of a port, it is the port of its link.
  have atUp {port : S} {entry : S × V} {rest : List (S × V)} (atPort : ¬star.Host port)
      (front : (group port).inbox = entry :: rest) (mine : entry.1 = source) : port = up.1 := by
    obtain ⟨link, present, rfl, from', -⟩ := orderly.received_own atPort (front ▸ List.mem_cons_self)
    rw [proper.link_unique present upward (List.mem_cons_of_mem _ from') (List.mem_cons_of_mem _ (mine ▸ homed))]
  have leaves {port : S} {entry : S × V} {rest : List (S × V)} (atPort : ¬star.Host port)
      (front : (group port).inbox = entry :: rest) :
      ledger star.address group source up.1 =
        (if entry.1 = source then [entry.2] else []) ++ ledger star.address (pop group port) source up.1 := by
    by_cases here : up.1 = port
    · subst here
      exact ledger_pop_front front source
    · rw [ledger_pop_elsewhere group here, if_neg fun mine => here (atUp atPort front mine).symm]
      rfl
  cases relayed with
  | @dropped port entry rest atPort front nowhere =>
      have nothing : (if entry.1 = source then [entry.2] else []).filterMap (star.reaches down target) = [] := by
        split
        · simp [reaches, nowhere]
        · rfl
      rw [flow, flow, leaves atPort front, List.filterMap_append, nothing, List.nil_append,
        ledger_pop_elsewhere group (notTarget atPort)]
  | @passed port out key next entry rest atPort front onward asks legal =>
      obtain ⟨link, present, -, from', own⟩ := orderly.received_own atPort (front ▸ List.mem_cons_self)
      have origin := (proper.lasting _ _ _ _ onward).trans own
      have outApart : out ≠ source := fun same => proper.through _ _ _ _ onward ⟨up, upward, same ▸ homed⟩
      have sourceSide : ledger star.address
          (pop (Function.update group out ((group out).submit out key next asks)) port) source up.1 =
            ledger star.address (pop group port) source up.1 := by
        have inbox := (update_grows (submit_grows out (group out) key next asks) up.1).inbox
        rw [ledger_pop, ledger_pop, pop_inbox, pop_inbox, inbox, Function.update_of_ne outApart.symm]
      have added : ledger star.address
          (pop (Function.update group out ((group out).submit out key next asks)) port) down.1 target =
            ledger star.address group down.1 target ++
              if down.1 = out ∧ key = star.address target then [next] else [] := by
        rw [ledger_pop_elsewhere _ (notTarget atPort), ledger_submit proper.injective orderly.good]
      rw [flow, flow, sourceSide, added, leaves atPort front, List.filter_append, List.filterMap_append,
        List.append_assoc]
      congr 2
      by_cases mine : entry.1 = source
      · by_cases goes : down.1 = out ∧ key = star.address target
        · simp [mine, goes, origin, reaches, onward]
        · have elsewhere : ¬(out = down.1 ∧ key = star.address target) := fun same => goes ⟨same.1.symm, same.2⟩
          simp [mine, goes, reaches, onward, elsewhere]
      · have other : star.origin next ≠ star.address source := fun same =>
          mine (proper.injective (origin.symm.trans same))
        rw [if_neg mine]
        split <;> simp [other]

theorem flow_move {sent : List (S × V)} {after : S → Resolver S K V} (move : Move star group sent after) :
    star.flow after up source down target = star.flow group up source down target ++
      (Deferral.itemsFor source sent).filterMap (star.reaches down target) := by
  have apart := proper.host_ne_port upward homed
  have apartThere := proper.host_ne_port downward there
  cases move with
  | @send link present host homedHere item own asks legal =>
      have portSide : ¬(down.1 = host ∧ star.address link.1 = star.address target) := by
        rintro ⟨rfl, -⟩
        exact proper.port_not_host downward ⟨link, present, homedHere⟩
      rw [flow, ledger_submit proper.injective orderly.good, ledger_submit proper.injective orderly.good,
        if_neg portSide, List.append_nil, List.filterMap_append, ← List.append_assoc, ← flow]
      congr 1
      by_cases same : source = host
      · subst same
        have sameLink := proper.link_unique present upward (List.mem_cons_of_mem _ homedHere)
          (List.mem_cons_of_mem _ homed)
        simp [sameLink, Deferral.itemsFor]
      · simp [same, Ne.symm same, Deferral.itemsFor]
  | forget me gone =>
      have tells : Tells star.address (.forget gone : DeferralOp K V S) := trivial
      have unchanged (sender receiver : S) :
          ledger star.address (Function.update group me ((group me).forget me gone)) sender receiver =
            ledger star.address group sender receiver := by
        rw [Resolver.forget, ledger_act proper.injective orderly.good tells fun _ => rfl]
        simp [Deferral.submittedFor]
      rw [flow, unchanged, unchanged]
      exact (List.append_nil _).symm
  | relay relayed =>
      rw [flow_relay proper orderly upward homed downward there relayed]
      exact (List.append_nil _).symm
  | exchange present =>
      rw [flow, ledger_exchange proper orderly present downward List.mem_cons_self (List.mem_cons_of_mem _ there)
        apartThere.symm, ledger_exchange proper orderly present upward (List.mem_cons_of_mem _ homed)
        List.mem_cons_self apart]
      exact (List.append_nil _).symm

omit orderly in
theorem flow_moves {start after : S → Resolver S K V} (orderly : star.Orderly start) {sent : List (S × V)}
    (moves : Moves star start sent after) :
    star.flow after up source down target = star.flow start up source down target ++
      (Deferral.itemsFor source sent).filterMap (star.reaches down target) := by
  induction moves with
  | nil => exact (List.append_nil _).symm
  | cons move _ ih =>
      rw [ih (orderly.move proper move), flow_move proper orderly upward homed downward there move,
        List.append_assoc, ← List.filterMap_append, ← Deferral.itemsFor_append]

end Flow

section Rounds

def exchangeAll (star : Star S K V) (group : S → Resolver S K V) : S → Resolver S K V :=
  star.links.foldl (fun group link => Shared.exchange star.address (members link) group) group

def Round (star : Star S K V) (group after : S → Resolver S K V) : Prop :=
  ∃ relayed, Relation.ReflTransGen star.Relay group relayed ∧
    (∀ port, ¬star.Host port → (relayed port).inbox = []) ∧ after = star.exchangeAll relayed

inductive Rounds (star : Star S K V) (group : S → Resolver S K V) : Nat → (S → Resolver S K V) → Prop
  | zero : Rounds star group 0 group
  | succ {n : Nat} {next after : S → Resolver S K V} (rounds : Rounds star group n next)
      (round : star.Round next after) : Rounds star group (n + 1) after

variable {star : Star S K V} {group : S → Resolver S K V}

theorem moves_relays {after : S → Resolver S K V} (relays : Relation.ReflTransGen star.Relay group after) :
    Moves star group [] after := by
  induction relays with
  | refl => exact .nil group
  | tail _ relayed ih => exact ih.trans (.cons (.relay relayed) (.nil _))

theorem moves_exchangeAll (star : Star S K V) (group : S → Resolver S K V) :
    Moves star group [] (star.exchangeAll group) := by
  have upTo (links : List (S × List S)) (present : ∀ link ∈ links, link ∈ star.links) (group : S → Resolver S K V) :
      Moves star group []
        (links.foldl (fun group link => Shared.exchange star.address (members link) group) group) := by
    induction links generalizing group with
    | nil => exact .nil group
    | cons link rest ih =>
        exact .cons (.exchange (present link List.mem_cons_self))
          (ih (fun other later => present other (List.mem_cons_of_mem _ later)) _)
  exact upTo star.links (fun _ => id) group

theorem Round.moves {after : S → Resolver S K V} (round : star.Round group after) : Moves star group [] after := by
  obtain ⟨relayed, relays, -, rfl⟩ := round
  exact (moves_relays relays).trans (moves_exchangeAll star relayed)

theorem Rounds.moves {n : Nat} {after : S → Resolver S K V} (rounds : star.Rounds group n after) :
    Moves star group [] after := by
  induction rounds with
  | zero => exact .nil group
  | succ _ round ih => exact ih.trans round.moves

theorem exchange_congr {address : S → K} {members : List S} {other : S → Resolver S K V}
    (same : ∀ station ∈ members, other station = group station) {me : S} (member : me ∈ members) :
    Shared.exchange address members other me = Shared.exchange address members group me := by
  have incoming : ((members.filter (· ≠ me)).flatMap fun station => (other station).out) =
      (members.filter (· ≠ me)).flatMap fun station => (group station).out := by
    simp only [List.flatMap]
    congr 1
    exact List.map_congr_left fun station chosen => by rw [same station (List.mem_of_mem_filter chosen)]
  simp only [Shared.exchange, if_pos member, same me member, incoming]

theorem foldl_exchange_outside {address : S → K} {links : List (S × List S)} {me : S}
    (outside : me ∉ links.flatMap members) (group : S → Resolver S K V) :
    links.foldl (fun group link => Shared.exchange address (members link) group) group me = group me := by
  induction links generalizing group with
  | nil => rfl
  | cons link rest ih =>
      rw [List.flatMap_cons, List.mem_append, not_or] at outside
      rw [List.foldl_cons, ih outside.2, exchange_outside outside.1]

theorem exchangeAll_apply (proper : star.Proper) {link : S × List S} (present : link ∈ star.links) {me : S}
    (member : me ∈ members link) (group : S → Resolver S K V) :
    star.exchangeAll group me = Shared.exchange star.address (members link) group me := by
  have upTo (links : List (S × List S)) (distinct : (links.flatMap members).Nodup) (present : link ∈ links)
      (group : S → Resolver S K V) :
      links.foldl (fun group link => Shared.exchange star.address (members link) group) group me =
        Shared.exchange star.address (members link) group me := by
    induction links generalizing group with
    | nil => cases present
    | cons first rest ih =>
        rw [List.flatMap_cons, List.nodup_append] at distinct
        obtain ⟨-, distinctRest, disjoint⟩ := distinct
        rw [List.foldl_cons]
        rcases List.mem_cons.mp present with rfl | later
        · exact foldl_exchange_outside (fun again => disjoint me member me again rfl) _
        · rw [ih distinctRest later]
          refine exchange_congr (fun station there => exchange_outside fun here => ?_) member
          exact disjoint station here station (List.mem_flatMap.mpr ⟨link, later, there⟩) rfl
  exact upTo star.links proper.distinct present group

theorem Relay.keeps {after : S → Resolver S K V} (proper : star.Proper) (relayed : star.Relay group after) :
    (∀ host, star.Host host → after host = group host) ∧ ∀ station, (group station).out <+: (after station).out := by
  cases relayed with
  | @dropped port _ _ atPort _ _ =>
      refine ⟨fun host hosted => ?_, fun station => pop_out group port station ▸ List.prefix_refl _⟩
      exact Function.update_of_ne (by rintro rfl; exact atPort hosted) _ _
  | @passed port out key next entry _ atPort _ onward asks _ =>
      refine ⟨fun host hosted => ?_, fun station => ?_⟩
      · rw [pop, Function.update_of_ne (by rintro rfl; exact atPort hosted),
          Function.update_of_ne (by rintro rfl; exact proper.through _ _ _ _ onward hosted)]
      · rw [pop_out]
        exact (update_grows (submit_grows out (group out) key next asks) station).out

theorem relays_keep {after : S → Resolver S K V} (proper : star.Proper)
    (relays : Relation.ReflTransGen star.Relay group after) :
    (∀ host, star.Host host → after host = group host) ∧ ∀ station, (group station).out <+: (after station).out := by
  induction relays with
  | refl => exact ⟨fun _ _ => rfl, fun _ => List.prefix_refl _⟩
  | tail _ relayed ih =>
      obtain ⟨hosts, grows⟩ := relayed.keeps proper
      exact ⟨fun host hosted => (hosts host hosted).trans (ih.1 host hosted),
        fun station => (ih.2 station).trans (grows station)⟩

theorem relays_idle {after : S → Resolver S K V} (idle : ∀ port, ¬star.Host port → (group port).inbox = [])
    (relays : Relation.ReflTransGen star.Relay group after) : after = group := by
  induction relays with
  | refl => rfl
  | tail _ relayed ih =>
      subst ih
      cases relayed with
      | dropped atPort front _ => exact absurd ((idle _ atPort).symm.trans front) nofun
      | passed atPort front _ _ => exact absurd ((idle _ atPort).symm.trans front) nofun

/-- How far everything has come after so many rounds: three take it to the ports, and another three to the hosts. -/
structure Settling (star : Star S K V) (group : S → Resolver S K V) (rounds : Nat) : Prop where
  up : ∀ link ∈ star.links, ∀ host ∈ link.2, Within star.address group host link.1 (3 - rounds)
  idle : 4 ≤ rounds → ∀ port, ¬star.Host port → (group port).inbox = []
  down : 4 ≤ rounds → ∀ link ∈ star.links, ∀ host ∈ link.2, Within star.address group link.1 host (6 - rounds)

theorem Settling.cleared {n : Nat} (settled : star.Settling group n) (enough : 6 ≤ n) {link : S × List S}
    (present : link ∈ star.links) {host : S} (homed : host ∈ link.2) :
    Within star.address group host link.1 0 ∧ Within star.address group link.1 host 0 := by
  have up := settled.up link present host homed
  have down := settled.down (by omega) link present host homed
  have none : 3 - n = 0 ∧ 6 - n = 0 := by omega
  rw [none.1] at up
  rw [none.2] at down
  exact ⟨up, down⟩

variable (proper : star.Proper) (orderly : star.Orderly group)
include proper orderly

theorem exchangeAll_within {link : S × List S} (present : link ∈ star.links) {sender receiver : S}
    (sends : sender ∈ members link) (receives : receiver ∈ members link) (apart : sender ≠ receiver) {n : Nat}
    (within : Within star.address group sender receiver n) :
    Within star.address (star.exchangeAll group) sender receiver (n - 1) := by
  have asked := orderly.asked link present sender sends receiver receives apart
  refine (exchange_within proper.injective orderly.good sends receives apart asked within).congr
    (exchangeAll_apply proper present sends group) ?_
  simp only [exchangeAll_apply proper present receives group, List.prefix_refl]

theorem exchangeAll_idle (idle : ∀ port, ¬star.Host port → (group port).inbox = [])
    (cleared : ∀ link ∈ star.links, ∀ host ∈ link.2, Within star.address group host link.1 0) :
    ∀ port, ¬star.Host port → (star.exchangeAll group port).inbox = [] := by
  intro port atPort
  by_cases linked : ∃ link ∈ star.links, port ∈ members link
  · obtain ⟨link, present, member⟩ := linked
    have same : port = link.1 := (List.mem_cons.mp member).resolve_right fun host => atPort ⟨link, present, host⟩
    rw [exchangeAll_apply proper present member, List.eq_nil_iff_forall_not_mem]
    intro entry received
    rcases mem_exchange_inbox proper.injective orderly.good received with before | ⟨-, sends, apart, data⟩
    · exact List.not_mem_nil (idle port atPort ▸ before)
    · have host := (List.mem_cons.mp sends).resolve_left fun also => apart (also.trans same.symm)
      have nothing := (List.append_eq_nil_iff.mp (cleared link present entry.1 host)).1
      rw [← same] at nothing
      exact List.not_mem_nil (nothing ▸ data)
  · have outside : port ∉ star.links.flatMap members := fun found => linked (List.mem_flatMap.mp found)
    rw [exchangeAll, foldl_exchange_outside outside]
    exact idle port atPort

theorem Settling.round {k : Nat} (settling : star.Settling group k) {after : S → Resolver S K V}
    (round : star.Round group after) : star.Settling after (k + 1) := by
  obtain ⟨relayed, relays, emptied, rfl⟩ := round
  have orderlyRelayed := orderly.moves proper (moves_relays relays)
  obtain ⟨hosts, grows⟩ := relays_keep proper relays
  have up : ∀ link ∈ star.links, ∀ host ∈ link.2, Within star.address relayed host link.1 (3 - k) :=
    fun link present host homed =>
      (settling.up link present host homed).congr (hosts host ⟨link, present, homed⟩) (grows link.1)
  constructor
  · intro link present host homed
    exact exchangeAll_within proper orderlyRelayed present (List.mem_cons_of_mem _ homed) List.mem_cons_self
      (proper.host_ne_port present homed) (up link present host homed)
  · intro late
    refine exchangeAll_idle proper orderlyRelayed emptied fun link present host homed => ?_
    have here : 3 - k = 0 := by omega
    exact here ▸ up link present host homed
  · intro late link present host homed
    refine exchangeAll_within proper orderlyRelayed present List.mem_cons_self (List.mem_cons_of_mem _ homed)
      (proper.host_ne_port present homed).symm ?_
    rcases Nat.lt_or_ge 3 k with later | now
    · rw [relays_idle (settling.idle later) relays]
      exact settling.down later link present host homed
    · have third : k = 3 := by omega
      subst third
      trivial

theorem settling_rounds {n : Nat} {after : S → Resolver S K V} (rounds : star.Rounds group n after) :
    star.Settling after n := by
  induction rounds with
  | zero => exact ⟨fun _ _ _ _ => trivial, fun late => absurd late (by decide), fun late => absurd late (by decide)⟩
  | succ rounds round ih => exact ih.round proper (orderly.moves proper rounds.moves) round

theorem rounds_deliver {n : Nat} (enough : 6 ≤ n) {after : S → Resolver S K V} (rounds : star.Rounds group n after)
    {up down : S × List S} {source target : S} (upward : up ∈ star.links) (homed : source ∈ up.2)
    (downward : down ∈ star.links) (there : target ∈ down.2) :
    ((after target).inbox.map Prod.snd).filter (fun item => star.origin item = star.address source) =
      star.flow group up source down target := by
  have settled := settling_rounds proper orderly rounds
  have orderlyAfter := orderly.moves proper rounds.moves
  have upClear := (settled.cleared enough upward homed).1
  have downClear := (settled.cleared enough downward there).2
  rw [Within] at upClear downClear
  have fromPort : Deferral.itemsFor down.1 (after target).inbox = (after target).inbox.map Prod.snd := by
    rw [Deferral.itemsFor, ← List.filterMap_eq_map]
    exact List.filterMap_congr fun entry received =>
      if_pos (orderlyAfter.fromPort down downward target there entry received)
  have flow := flow_moves proper upward homed downward there orderly rounds.moves
  have inbox := settled.idle (by omega) up.1 (proper.port_not_host upward)
  rw [Star.flow, ledger, downClear, List.append_nil, fromPort, ledger, upClear, inbox] at flow
  simpa [Deferral.itemsFor] using flow

theorem rounds_drained {n : Nat} (enough : 6 ≤ n) {after : S → Resolver S K V} (rounds : star.Rounds group n after) :
    let drained := fun station => { after station with inbox := [] }
    star.Orderly drained ∧ ∀ up ∈ star.links, ∀ source ∈ up.2, ∀ down ∈ star.links, ∀ target ∈ down.2,
      star.flow drained up source down target = [] := by
  intro drained
  have settled := settling_rounds proper orderly rounds
  have orderlyAfter := orderly.moves proper rounds.moves
  have held (sender receiver : S) : ledger star.address drained sender receiver =
      dataFor receiver (after sender).out ++
        Deferral.itemsFor (star.address receiver) (after sender).deferral.waiting := rfl
  have less (sender receiver : S) :
      (ledger star.address drained sender receiver).Sublist (ledger star.address after sender receiver) := by
    rw [held, ledger]
    exact List.sublist_append_right _ _
  constructor
  · refine orderlyAfter.shrink (fun station => ?_) ?_ (fun _ _ _ _ _ => less _ _)
      (fun _ _ _ _ _ kept => .inl ((less _ _).subset kept)) (fun _ _ _ _ => List.forall_mem_nil _)
      fun _ _ => List.forall_mem_nil _
    · obtain ⟨settled, truthful, signed⟩ := orderlyAfter.good station
      exact ⟨settled, truthful, signed⟩
    · exact orderlyAfter.asked
  · intro up upward source homed down downward target there
    have upClear := (settled.cleared enough upward homed).1
    have downClear := (settled.cleared enough downward there).2
    rw [Within] at upClear downClear
    rw [Star.flow, held, held, upClear, downClear]
    rfl

end Rounds

end Star

end Shared
