import Mathlib.Data.List.Nodup
import Sponge.Shared.Deferral

set_option autoImplicit false

namespace Shared

inductive Notice (S K V : Type)
  | request (sender : S) (target : K)
  | reply (sender receiver : S)
  | data (sender receiver : S) (item : V)

structure Resolver (S K V : Type) where
  deferral : Deferral K V S
  out : List (Notice S K V) := []
  inbox : List (S × V) := []

variable {S K V : Type}

namespace Notice

def sender : Notice S K V → S
  | request sender _ | reply sender _ | data sender _ _ => sender

def brought [DecidableEq S] (receiver : S) : Notice S K V → Option (S × V)
  | .data sender addressee item => if addressee = receiver then some (sender, item) else none
  | _ => none

end Notice

namespace Resolver

section Act

variable [DecidableEq K] (address : S → K) (me : S)

def act (r : Resolver S K V) (op : DeferralOp K V S) (notes : List (Notice S K V)) : Resolver S K V :=
  { r with
    deferral := r.deferral.step op
    out := r.out ++ (notes ++ (r.deferral.delivered op).map fun delivery => .data me delivery.address delivery.item) }

-- Whether to ask for an unknown address is up to the station, as long as it asks at all.
def submit (r : Resolver S K V) (key : K) (item : V) (asks : Bool) : Resolver S K V :=
  r.act me (.submit key item) (if asks ∧ r.deferral.known key = none then [.request me key] else [])

def forget (r : Resolver S K V) (gone : K → Bool) : Resolver S K V := r.act me (.forget gone) []

structure Good (r : Resolver S K V) : Prop where
  settled : r.deferral.Settled
  truthful : ∀ key station, r.deferral.known key = some station → address station = key
  signed : ∀ notice ∈ r.out, notice.sender = me

def Tells (address : S → K) : DeferralOp K V S → Prop
  | .learn key station => address station = key
  | _ => True

variable {address me} {r : Resolver S K V} {op : DeferralOp K V S} {notes : List (Notice S K V)}

theorem truthful_step (good : r.Good address me) (tells : Tells address op) :
    ∀ key station, (r.deferral.step op).known key = some station → address station = key := by
  intro key station found
  cases op with
  | submit submitted item =>
      refine good.truthful key station ?_
      revert found
      simp only [Deferral.step]
      split <;> exact id
  | learn learned teller =>
      by_cases same : key = learned
      · subst same
        simp only [Deferral.step, Function.update_self, Option.some.injEq] at found
        exact found ▸ tells
      · simp only [Deferral.step, Function.update_of_ne same] at found
        exact good.truthful key station found
  | forget gone =>
      simp only [Deferral.step] at found
      split at found
      · cases found
      · exact good.truthful key station found

theorem delivered_truthful (good : r.Good address me) (tells : Tells address op) :
    ∀ delivery ∈ r.deferral.delivered op, address delivery.address = delivery.key := by
  intro delivery member
  cases op with
  | submit key item =>
      obtain ⟨entry, _, found⟩ := List.mem_filterMap.mp member
      obtain ⟨station, known, rfl⟩ := Option.map_eq_some_iff.mp found
      exact good.truthful _ _ known
  | learn key station =>
      obtain ⟨entry, _, found⟩ := List.mem_filterMap.mp member
      obtain ⟨station, known, rfl⟩ := Option.map_eq_some_iff.mp found
      exact truthful_step good tells _ _ known
  | forget gone => simp [Deferral.delivered] at member

theorem Good.act (good : r.Good address me) (tells : Tells address op)
    (signed : ∀ notice ∈ notes, notice.sender = me) : (r.act me op notes).Good address me where
  settled := Deferral.step_settled good.settled op
  truthful := truthful_step good tells
  signed := by
    intro notice member
    rcases List.mem_append.mp member with before | new
    · exact good.signed notice before
    · rcases List.mem_append.mp new with note | sent
      · exact signed notice note
      · obtain ⟨delivery, -, rfl⟩ := List.mem_map.mp sent
        rfl

theorem Good.submit (good : r.Good address me) (key : K) (item : V) (asks : Bool) :
    (r.submit me key item asks).Good address me := by
  refine good.act trivial fun notice member => ?_
  split at member
  · rw [List.mem_singleton.mp member]
    rfl
  · cases member

theorem Good.forget (good : r.Good address me) (gone : K → Bool) : (r.forget me gone).Good address me :=
  good.act trivial (by simp)

end Act

section Data

variable [DecidableEq S]

def dataFor (receiver : S) (notices : List (Notice S K V)) : List V :=
  (notices.filterMap (Notice.brought receiver)).map Prod.snd

theorem dataFor_append (receiver : S) (front back : List (Notice S K V)) :
    dataFor receiver (front ++ back) = dataFor receiver front ++ dataFor receiver back := by
  simp [dataFor]

variable [DecidableEq K] {address : S → K} {me : S} {r : Resolver S K V} {op : DeferralOp K V S}
  {notes : List (Notice S K V)}

theorem dataFor_deliveries (injective : Function.Injective address) (receiver : S)
    {deliveries : List (Delivery K V S)}
    (truthful : ∀ delivery ∈ deliveries, address delivery.address = delivery.key) :
    dataFor receiver (deliveries.map fun delivery => (.data me delivery.address delivery.item : Notice S K V)) =
      Deferral.deliveredFor (address receiver) deliveries := by
  rw [dataFor, List.filterMap_map, List.map_filterMap, Deferral.deliveredFor, Deferral.itemsFor, List.filterMap_map]
  refine List.filterMap_congr fun delivery member => ?_
  simp only [Function.comp_apply, Notice.brought, ← truthful delivery member, injective.eq_iff]
  split <;> rfl

theorem act_fifo (injective : Function.Injective address) (good : r.Good address me) (tells : Tells address op)
    (receiver : S) (plain : dataFor receiver notes = []) :
    dataFor receiver (r.act me op notes).out ++
        Deferral.itemsFor (address receiver) (r.act me op notes).deferral.waiting =
      dataFor receiver r.out ++ Deferral.itemsFor (address receiver) r.deferral.waiting ++
        Deferral.submittedFor (address receiver) op := by
  have fifo := Deferral.step_fifo good.settled op (address receiver)
  simp only [act, dataFor_append, plain, List.nil_append,
    dataFor_deliveries injective receiver (delivered_truthful good tells), List.append_assoc, fifo]

end Data

section Hearing

variable [DecidableEq S] [DecidableEq K] (address : S → K) (me : S)

def hear (r : Resolver S K V) : Notice S K V → Resolver S K V
  | .request sender target =>
      r.act me (.learn (address sender) sender) (if target = address me then [.reply me sender] else [])
  | .reply sender receiver =>
      if receiver = me then r.act me (.learn (address sender) sender) [] else r
  | .data sender receiver item =>
      if receiver = me then { r with inbox := r.inbox ++ [(sender, item)] } else r

structure Hears (r : Resolver S K V) (notices : List (Notice S K V)) (after : Resolver S K V) : Prop where
  good : after.Good address me
  out : r.out <+: after.out
  waiting : after.deferral.waiting.Sublist r.deferral.waiting
  inbox : after.inbox = r.inbox ++ notices.filterMap (Notice.brought me)
  fifo : ∀ receiver, dataFor receiver after.out ++ Deferral.itemsFor (address receiver) after.deferral.waiting =
    dataFor receiver r.out ++ Deferral.itemsFor (address receiver) r.deferral.waiting
  answers : ∀ sender, .request sender (address me) ∈ notices → .reply me sender ∈ after.out
  learns : ∀ sender, .reply sender me ∈ notices → Deferral.itemsFor (address sender) after.deferral.waiting = []

variable {address me} {r : Resolver S K V}

theorem hears_nothing (good : r.Good address me) : Hears address me r [] r where
  good := good
  out := List.prefix_refl _
  waiting := List.Sublist.refl _
  inbox := (List.append_nil _).symm
  fifo := fun _ => rfl
  answers := fun _ => nofun
  learns := fun _ => nofun

theorem hears_learn (injective : Function.Injective address) (good : r.Good address me) (sender : S)
    {notes : List (Notice S K V)} (signed : ∀ note ∈ notes, note.sender = me)
    (plain : ∀ receiver, dataFor receiver notes = []) {notice : Notice S K V} (bare : notice.brought me = none)
    (answers : ∀ other, notice = .request other (address me) → .reply me other ∈ notes)
    (learns : ∀ other, notice = .reply other me → other = sender) :
    Hears address me r [notice] (r.act me (.learn (address sender) sender) notes) where
  good := good.act rfl signed
  out := List.prefix_append ..
  waiting := List.filter_sublist
  inbox := by simp [bare, act]
  fifo := by
    intro receiver
    have tells : Tells address (.learn (address sender) sender : DeferralOp K V S) := rfl
    rw [act_fifo injective good tells receiver (plain receiver)]
    exact List.append_nil _
  answers := fun other member =>
    List.mem_append_right _ (List.mem_append_left _ (answers other (List.mem_singleton.mp member).symm))
  learns := by
    intro other member
    rw [learns other (List.mem_singleton.mp member).symm]
    simp [act, Deferral.step, Deferral.itemsFor_keep]

theorem hears_ignored (good : r.Good address me) {notice : Notice S K V} (bare : notice.brought me = none)
    (quiet : ∀ other, notice ≠ .request other (address me) ∧ notice ≠ .reply other me) :
    Hears address me r [notice] r where
  good := good
  out := List.prefix_refl _
  waiting := List.Sublist.refl _
  inbox := by simp [bare]
  fifo := fun _ => rfl
  answers := fun other member => absurd (List.mem_singleton.mp member).symm (quiet other).1
  learns := fun other member => absurd (List.mem_singleton.mp member).symm (quiet other).2

theorem hears_one (injective : Function.Injective address) (good : r.Good address me) (notice : Notice S K V) :
    Hears address me r [notice] (r.hear address me notice) := by
  cases notice with
  | request sender target =>
      refine hears_learn injective good sender ?_ ?_ rfl ?_ nofun
      · intro note member
        split at member
        · rw [List.mem_singleton.mp member]
          rfl
        · cases member
      · intro receiver
        split <;> rfl
      · rintro other ⟨⟩
        rw [if_pos rfl]
        exact List.mem_cons_self
  | reply sender receiver =>
      rw [hear]
      split
      next => exact hears_learn injective good sender (by simp) (fun _ => rfl) rfl nofun (by rintro other ⟨⟩; rfl)
      next elsewhere => exact hears_ignored good rfl fun other => ⟨nofun, fun same => elsewhere (by cases same; rfl)⟩
  | data sender receiver item =>
      rw [hear]
      split
      next mine =>
        refine ⟨⟨good.settled, good.truthful, good.signed⟩, List.prefix_refl _, List.Sublist.refl _, ?_, fun _ => rfl,
          fun _ member => ?_, fun _ member => ?_⟩
        · simp [Notice.brought, mine]
        · cases List.mem_singleton.mp member
        · cases List.mem_singleton.mp member
      next elsewhere => exact hears_ignored good (if_neg elsewhere) fun other => ⟨nofun, nofun⟩

theorem Hears.cons {notice : Notice S K V} {notices : List (Notice S K V)} {next after : Resolver S K V}
    (first : Hears address me r [notice] next) (rest : Hears address me next notices after) :
    Hears address me r (notice :: notices) after where
  good := rest.good
  out := first.out.trans rest.out
  waiting := rest.waiting.trans first.waiting
  inbox := by
    rw [rest.inbox, first.inbox, List.append_assoc, ← List.filterMap_append]
    rfl
  fifo := fun receiver => (rest.fifo receiver).trans (first.fifo receiver)
  answers := by
    intro sender member
    rcases List.mem_cons.mp member with now | later
    · exact rest.out.subset (first.answers sender (now ▸ List.mem_cons_self))
    · exact rest.answers sender later
  learns := by
    intro sender member
    rcases List.mem_cons.mp member with now | later
    · have nothing := first.learns sender (now ▸ List.mem_cons_self)
      have fewer : (Deferral.itemsFor (address sender) after.deferral.waiting).Sublist [] :=
        nothing ▸ rest.waiting.filterMap _
      exact List.sublist_nil.mp fewer
    · exact rest.learns sender later

theorem hears_all (injective : Function.Injective address) (good : r.Good address me)
    (notices : List (Notice S K V)) : Hears address me r notices (notices.foldl (hear address me) r) := by
  induction notices generalizing r with
  | nil => exact hears_nothing good
  | cons notice notices ih =>
      have first := hears_one injective good notice
      exact first.cons (ih first.good)

end Hearing

end Resolver

def exchange [DecidableEq S] [DecidableEq K] (address : S → K) (members : List S) (group : S → Resolver S K V) :
    S → Resolver S K V := fun me =>
  if me ∈ members then
    let incoming := (members.filter (· ≠ me)).flatMap fun other => (group other).out
    let after := incoming.foldl (Resolver.hear address me) (group me)
    { after with out := after.out.drop (group me).out.length }
  else
    group me

section Turns

variable [DecidableEq S]

def inTurn {T : Type} (change : S → T → T) (members : List S) (group : S → T) : S → T :=
  members.foldl (fun group me => Function.update group me (change me (group me))) group

theorem inTurn_apply {T : Type} (change : S → T → T) {members : List S} (distinct : members.Nodup) (group : S → T)
    (me : S) : inTurn change members group me = if me ∈ members then change me (group me) else group me := by
  rw [inTurn]
  induction members generalizing group with
  | nil => rfl
  | cons first rest ih =>
      rw [List.nodup_cons] at distinct
      rw [List.foldl_cons, ih distinct.2]
      by_cases same : me = first
      · subst same
        simp [distinct.1]
      · simp [same]

def turns (members : List S) : List (S × S) :=
  members.flatMap fun sender => (members.filter (· ≠ sender)).map fun receiver => (sender, receiver)

variable [DecidableEq K] (address : S → K)

def hearTurn (before now : S → Resolver S K V) (turn : S × S) : S → Resolver S K V :=
  Function.update now turn.2 ((before turn.1).out.foldl (Resolver.hear address turn.2) (now turn.2))

def dropSent (before : S → Resolver S K V) (me : S) (r : Resolver S K V) : Resolver S K V :=
  { r with out := r.out.drop (before me).out.length }

def exchangeInTurn (members : List S) (group : S → Resolver S K V) : S → Resolver S K V :=
  inTurn (dropSent group) members ((turns members).foldl (hearTurn address group) group)

theorem exchangeInTurn_eq {members : List S} (distinct : members.Nodup) (group : S → Resolver S K V) :
    exchangeInTurn address members group = exchange address members group := by
  have sender_heard (now : S → Resolver S K V) (sender : S) (receivers : List S) :
      (receivers.map fun receiver => (sender, receiver)).foldl (hearTurn address group) now =
        inTurn (fun me r => (group sender).out.foldl (Resolver.hear address me) r) receivers now := by
    rw [List.foldl_map]
    rfl
  have hearing (senders : List S) (now : S → Resolver S K V) (me : S) :
      (senders.flatMap fun sender => (members.filter (· ≠ sender)).map fun receiver => (sender, receiver)).foldl
          (hearTurn address group) now me =
        if me ∈ members then
          ((senders.filter (· ≠ me)).flatMap fun other => (group other).out).foldl (Resolver.hear address me) (now me)
        else now me := by
    induction senders generalizing now with
    | nil => simp
    | cons sender senders ih =>
        rw [List.flatMap_cons, List.foldl_append, sender_heard, ih, inTurn_apply _ (distinct.filter _)]
        by_cases member : me ∈ members
        · by_cases same : sender = me
          · simp [member, same]
          · simp [member, same, Ne.symm same, List.foldl_append]
        · simp [member]
  funext me
  rw [exchangeInTurn, inTurn_apply _ distinct, turns, hearing, exchange]
  split
  next => rfl
  next => rfl

end Turns

namespace Resolver

section Exchange

variable [DecidableEq S] [DecidableEq K] {address : S → K} {members : List S} {group : S → Resolver S K V}

omit [DecidableEq K] in
theorem itemsFor_signed {notices : List (Notice S K V)} {station : S}
    (signed : ∀ notice ∈ notices, notice.sender = station) (sender me : S) :
    Deferral.itemsFor sender (notices.filterMap (Notice.brought me)) =
      if station = sender then dataFor me notices else [] := by
  have each : ∀ entry ∈ notices.filterMap (Notice.brought me), entry.1 = station := by
    intro entry member
    obtain ⟨notice, among, brings⟩ := List.mem_filterMap.mp member
    have from' := signed notice among
    cases notice with
    | request _ _ => cases brings
    | reply _ _ => cases brings
    | data author addressee item =>
        simp only [Notice.brought] at brings
        split at brings
        · cases brings
          exact from'
        · cases brings
  split
  next same =>
    subst same
    rw [dataFor, Deferral.itemsFor, ← List.filterMap_eq_map]
    exact List.filterMap_congr fun entry member => if_pos (each entry member)
  next other =>
    rw [Deferral.itemsFor, List.filterMap_eq_nil_iff]
    exact fun entry member => if_neg fun same => other ((each entry member).symm.trans same)

omit [DecidableEq K] in
theorem itemsFor_incoming (good : ∀ station, (group station).Good address station) {stations : List S}
    (distinct : stations.Nodup) (sender me : S) :
    Deferral.itemsFor sender ((stations.flatMap fun other => (group other).out).filterMap (Notice.brought me)) =
      if sender ∈ stations then dataFor me (group sender).out else [] := by
  induction stations with
  | nil => rfl
  | cons station rest ih =>
      rw [List.nodup_cons] at distinct
      rw [List.flatMap_cons, List.filterMap_append, Deferral.itemsFor_append, ih distinct.2,
        itemsFor_signed (good station).signed]
      by_cases same : station = sender
      · subst same
        simp [distinct.1]
      · simp [same, Ne.symm same]

theorem exchange_member (injective : Function.Injective address)
    (good : ∀ station, (group station).Good address station) {me : S} (member : me ∈ members) :
    ∃ after new, Hears address me (group me) ((members.filter (· ≠ me)).flatMap fun other => (group other).out) after ∧
      after.out = (group me).out ++ new ∧ exchange address members group me = { after with out := new } := by
  have hears := hears_all injective (good me) ((members.filter (· ≠ me)).flatMap fun other => (group other).out)
  obtain ⟨new, appended⟩ := hears.out
  refine ⟨_, new, hears, appended.symm, ?_⟩
  simp only [exchange, if_pos member, ← appended, List.drop_left]

theorem exchange_good (injective : Function.Injective address)
    (good : ∀ station, (group station).Good address station) (me : S) :
    (exchange address members group me).Good address me := by
  by_cases member : me ∈ members
  · obtain ⟨after, new, hears, appended, same⟩ := exchange_member injective good member
    rw [same]
    refine ⟨hears.good.settled, hears.good.truthful, fun notice found => hears.good.signed notice ?_⟩
    rw [appended]
    exact List.mem_append_right _ found
  · rw [exchange, if_neg member]
    exact good me

variable (address) in
def ledger (group : S → Resolver S K V) (sender receiver : S) : List V :=
  Deferral.itemsFor sender (group receiver).inbox ++
    (dataFor receiver (group sender).out ++
      Deferral.itemsFor (address receiver) (group sender).deferral.waiting)

variable {sender receiver : S}

theorem exchange_inbox (injective : Function.Injective address)
    (good : ∀ station, (group station).Good address station) (distinct : members.Nodup)
    (sends : sender ∈ members) (receives : receiver ∈ members) (apart : sender ≠ receiver) :
    Deferral.itemsFor sender (exchange address members group receiver).inbox =
      Deferral.itemsFor sender (group receiver).inbox ++ dataFor receiver (group sender).out := by
  obtain ⟨after, new, hears, -, same⟩ := exchange_member injective good receives
  have among : sender ∈ members.filter (· ≠ receiver) := by simp [sends, apart]
  rw [same]
  simp only [hears.inbox, Deferral.itemsFor_append]
  rw [itemsFor_incoming good (distinct.filter _), if_pos among]

theorem exchange_held (injective : Function.Injective address)
    (good : ∀ station, (group station).Good address station) (sends : sender ∈ members) (receiver : S) :
    dataFor receiver (exchange address members group sender).out ++
        Deferral.itemsFor (address receiver) (exchange address members group sender).deferral.waiting =
      Deferral.itemsFor (address receiver) (group sender).deferral.waiting := by
  obtain ⟨after, new, hears, appended, same⟩ := exchange_member injective good sends
  have fifo := hears.fifo receiver
  rw [appended, dataFor_append, List.append_assoc] at fifo
  rw [same]
  exact List.append_cancel_left fifo

theorem exchange_ledger (injective : Function.Injective address)
    (good : ∀ station, (group station).Good address station) (distinct : members.Nodup)
    (sends : sender ∈ members) (receives : receiver ∈ members) (apart : sender ≠ receiver) :
    ledger address (exchange address members group) sender receiver = ledger address group sender receiver := by
  rw [ledger, exchange_inbox injective good distinct sends receives apart, exchange_held injective good sends,
    List.append_assoc, ledger]

variable (address) in
-- Whoever has something to wait for has asked for it: the request is on its way, or the answer.
def Asked (group : S → Resolver S K V) (sender receiver : S) : Prop :=
  Deferral.itemsFor (address receiver) (group sender).deferral.waiting ≠ [] →
    .request sender (address receiver) ∈ (group sender).out ∨ .reply receiver sender ∈ (group receiver).out

variable (address) in
def Answered (group : S → Resolver S K V) (sender receiver : S) : Prop :=
  Deferral.itemsFor (address receiver) (group sender).deferral.waiting ≠ [] →
    .reply receiver sender ∈ (group receiver).out

section Progress

variable (injective : Function.Injective address) (good : ∀ station, (group station).Good address station)
  (sends : sender ∈ members) (receives : receiver ∈ members) (apart : sender ≠ receiver)
include injective good sends receives apart

theorem exchange_learned (reply : .reply receiver sender ∈ (group receiver).out) :
    Deferral.itemsFor (address receiver) (exchange address members group sender).deferral.waiting = [] := by
  obtain ⟨after, new, hears, -, same⟩ := exchange_member injective good sends
  rw [same]
  refine hears.learns receiver (List.mem_flatMap.mpr ⟨receiver, ?_, reply⟩)
  simp [receives, Ne.symm apart]

theorem exchange_flushed (answered : Answered address group sender receiver) :
    Deferral.itemsFor (address receiver) (exchange address members group sender).deferral.waiting = [] := by
  by_cases waits : Deferral.itemsFor (address receiver) (group sender).deferral.waiting = []
  · have held := exchange_held injective good sends receiver
    rw [waits] at held
    exact (List.append_eq_nil_iff.mp held).2
  · exact exchange_learned injective good sends receives apart (answered waits)

theorem exchange_answered (asked : Asked address group sender receiver) :
    Answered address (exchange address members group) sender receiver := by
  intro waits
  have still : Deferral.itemsFor (address receiver) (group sender).deferral.waiting ≠ [] := by
    intro nothing
    have held := exchange_held injective good sends receiver
    rw [nothing] at held
    exact waits (List.append_eq_nil_iff.mp held).2
  -- An answer that was under way already has come by now.
  have unanswered : .reply receiver sender ∉ (group receiver).out := fun reply =>
    waits (exchange_learned injective good sends receives apart reply)
  have request := (asked still).resolve_right unanswered
  obtain ⟨after, new, hears, appended, same⟩ := exchange_member injective good receives
  have reply := hears.answers sender (List.mem_flatMap.mpr ⟨sender, by simp [sends, apart], request⟩)
  rw [appended, List.mem_append] at reply
  rw [same]
  exact reply.resolve_left unanswered

end Progress

variable (address) in
def Within (group : S → Resolver S K V) (sender receiver : S) : Nat → Prop
  | 0 => dataFor receiver (group sender).out ++
      Deferral.itemsFor (address receiver) (group sender).deferral.waiting = []
  | 1 => Deferral.itemsFor (address receiver) (group sender).deferral.waiting = []
  | 2 => Answered address group sender receiver
  | _ => True

theorem exchange_within (injective : Function.Injective address)
    (good : ∀ station, (group station).Good address station) (sends : sender ∈ members)
    (receives : receiver ∈ members) (apart : sender ≠ receiver) (asked : Asked address group sender receiver) {n : Nat}
    (within : Within address group sender receiver n) :
    Within address (exchange address members group) sender receiver (n - 1) := by
  have held := exchange_held injective good sends receiver
  match n, within with
  | 0, nothing => exact held.trans (List.append_eq_nil_iff.mp nothing).2
  | 1, nothing => exact held.trans nothing
  | 2, answered => exact exchange_flushed injective good sends receives apart answered
  | 3, _ => exact exchange_answered injective good sends receives apart asked
  | _ + 4, _ => trivial

theorem Within.congr {after : S → Resolver S K V} {n : Nat}
    (within : Within address group sender receiver n) (same : after sender = group sender)
    (grows : (group receiver).out <+: (after receiver).out) : Within address after sender receiver n := by
  match n, within with
  | 0, nothing => rwa [Within, same]
  | 1, nothing => rwa [Within, same]
  | 2, answered =>
      intro waits
      rw [same] at waits
      exact grows.subset (answered waits)
  | _ + 3, _ => trivial

theorem exchange_outside {me : S} (outside : me ∉ members) : exchange address members group me = group me :=
  if_neg outside

theorem mem_exchange_inbox (injective : Function.Injective address)
    (good : ∀ station, (group station).Good address station) {me : S} {entry : S × V}
    (received : entry ∈ (exchange address members group me).inbox) :
    entry ∈ (group me).inbox ∨
      me ∈ members ∧ entry.1 ∈ members ∧ entry.1 ≠ me ∧ entry.2 ∈ dataFor me (group entry.1).out := by
  by_cases member : me ∈ members
  · obtain ⟨after, new, hears, -, same⟩ := exchange_member injective good member
    rw [same, hears.inbox, List.mem_append] at received
    refine received.imp_right fun brought => ?_
    obtain ⟨notice, among, brings⟩ := List.mem_filterMap.mp brought
    obtain ⟨other, chosen, sent⟩ := List.mem_flatMap.mp among
    obtain ⟨present, apart⟩ := List.mem_filter.mp chosen
    have author : entry.1 = other := by
      have signed := (good other).signed notice sent
      cases notice with
      | request _ _ => cases brings
      | reply _ _ => cases brings
      | data sender receiver item =>
          simp only [Notice.brought, Option.ite_none_right_eq_some] at brings
          cases brings.2
          exact signed
    rw [author]
    exact ⟨member, present, of_decide_eq_true apart,
      List.mem_map.mpr ⟨entry, List.mem_filterMap.mpr ⟨notice, sent, brings⟩, rfl⟩⟩
  · rw [exchange_outside member] at received
    exact .inl received

theorem exchange_ledger_sublist (injective : Function.Injective address)
    (good : ∀ station, (group station).Good address station) (distinct : members.Nodup) (sender receiver : S) :
    (ledger address (exchange address members group) sender receiver).Sublist
      (ledger address group sender receiver) := by
  by_cases both : sender ∈ members ∧ receiver ∈ members ∧ sender ≠ receiver
  · rw [exchange_ledger injective good distinct both.1 both.2.1 both.2.2]
  · have inbox : Deferral.itemsFor sender (exchange address members group receiver).inbox =
        Deferral.itemsFor sender (group receiver).inbox := by
      by_cases receives : receiver ∈ members
      · obtain ⟨after, new, hears, -, same⟩ := exchange_member injective good receives
        rw [same]
        simp only [hears.inbox, Deferral.itemsFor_append]
        rw [itemsFor_incoming good (distinct.filter _), if_neg, List.append_nil]
        simp only [List.mem_filter, decide_eq_true_eq, not_and, not_not]
        intro sends
        by_contra apart
        exact both ⟨sends, receives, apart⟩
      · rw [exchange_outside receives]
    rw [ledger, inbox, ledger]
    refine List.Sublist.append_left ?_ _
    by_cases sends : sender ∈ members
    · rw [exchange_held injective good sends]
      exact List.sublist_append_right _ _
    · rw [exchange_outside sends]

end Exchange

section Alone

variable [DecidableEq S] [DecidableEq K] {address : S → K} {group : S → Resolver S K V} {sender receiver : S}

structure Grows (r after : Resolver S K V) : Prop where
  out : r.out <+: after.out
  waiting : r.deferral.waiting <+: after.deferral.waiting
  inbox : after.inbox = r.inbox

omit [DecidableEq S] in
theorem submit_grows (me : S) (r : Resolver S K V) (key : K) (item : V) (asks : Bool) :
    r.Grows (r.submit me key item asks) where
  out := List.prefix_append ..
  waiting := by
    simp only [submit, act, Deferral.step]
    split
    · exact List.prefix_refl _
    · exact List.prefix_append ..
  inbox := rfl

omit [DecidableEq S] in
theorem forget_grows (me : S) (r : Resolver S K V) (gone : K → Bool) : r.Grows (r.forget me gone) :=
  ⟨List.prefix_append .., List.prefix_refl _, rfl⟩

omit [DecidableEq K] in
theorem update_grows {me : S} {after : Resolver S K V} (grows : (group me).Grows after) (station : S) :
    (group station).Grows (Function.update group me after station) := by
  by_cases same : station = me
  · subst same
    rw [Function.update_self]
    exact grows
  · rw [Function.update_of_ne same]
    exact ⟨List.prefix_refl _, List.prefix_refl _, rfl⟩

omit [DecidableEq K] in
theorem update_good (good : ∀ station, (group station).Good address station) {me : S} {after : Resolver S K V}
    (kept : after.Good address me) (station : S) : (Function.update group me after station).Good address station := by
  by_cases same : station = me
  · subst same
    rw [Function.update_self]
    exact kept
  · rw [Function.update_of_ne same]
    exact good station

theorem Asked.update (asked : Asked address group sender receiver) {me : S} {after : Resolver S K V}
    (grows : (group me).Grows after)
    (asks : ∀ key, Deferral.itemsFor key (group me).deferral.waiting = [] →
      Deferral.itemsFor key after.deferral.waiting ≠ [] → .request me key ∈ after.out) :
    Asked address (Function.update group me after) sender receiver := by
  have grown := update_grows grows
  intro waits
  by_cases before : Deferral.itemsFor (address receiver) (group sender).deferral.waiting = []
  · left
    by_cases same : sender = me
    · subst same
      rw [Function.update_self] at waits ⊢
      exact asks _ before waits
    · rw [Function.update_of_ne same] at waits
      exact absurd before waits
  · exact (asked before).imp (fun request => (grown sender).out.subset request)
      fun reply => (grown receiver).out.subset reply

theorem Asked.submit (asked : Asked address group sender receiver) {me : S} {key : K} {asks : Bool}
    (legal : asks = true ∨ Deferral.itemsFor key (group me).deferral.waiting ≠ []) (item : V) :
    Asked address (Function.update group me ((group me).submit me key item asks)) sender receiver := by
  refine asked.update (submit_grows ..) fun other nothing waits => ?_
  simp only [Resolver.submit, act, Deferral.step] at waits ⊢
  cases known : (group me).deferral.known key with
  | some station =>
      rw [known] at waits
      exact absurd nothing waits
  | none =>
      rw [known] at waits
      simp only [Deferral.itemsFor_append, nothing, List.nil_append, Deferral.itemsFor_cons] at waits
      by_cases same : key = other
      · subst same
        have asks : asks = true := legal.resolve_right (not_not.mpr nothing)
        simp [asks]
      · rw [if_neg same] at waits
        exact absurd rfl waits

theorem Asked.forget (asked : Asked address group sender receiver) (me : S) (gone : K → Bool) :
    Asked address (Function.update group me ((group me).forget me gone)) sender receiver :=
  asked.update (forget_grows ..) fun _ nothing waits => absurd nothing waits

theorem ledger_act (injective : Function.Injective address)
    (good : ∀ station, (group station).Good address station) {me : S} {op : DeferralOp K V S}
    {notes : List (Notice S K V)} (tells : Tells address op) (plain : ∀ receiver, dataFor receiver notes = []) :
    ledger address (Function.update group me ((group me).act me op notes)) sender receiver =
      ledger address group sender receiver ++
        if sender = me then Deferral.submittedFor (address receiver) op else [] := by
  have inbox : (Function.update group me ((group me).act me op notes) receiver).inbox = (group receiver).inbox := by
    by_cases same : receiver = me
    · subst same
      rw [Function.update_self]
      rfl
    · rw [Function.update_of_ne same]
  rw [ledger, inbox]
  by_cases same : sender = me
  · subst same
    rw [Function.update_self, act_fifo injective (good sender) tells receiver (plain receiver), if_pos rfl, ledger]
    simp only [List.append_assoc]
  · rw [Function.update_of_ne same, if_neg same, List.append_nil, ledger]

theorem ledger_submit (injective : Function.Injective address)
    (good : ∀ station, (group station).Good address station) (me : S) (key : K) (item : V) (asks : Bool) :
    ledger address (Function.update group me ((group me).submit me key item asks)) sender receiver =
      ledger address group sender receiver ++ if sender = me ∧ key = address receiver then [item] else [] := by
  have tells : Tells address (.submit key item : DeferralOp K V S) := trivial
  rw [Resolver.submit, ledger_act injective good tells fun _ => by split <;> rfl]
  congr 1
  by_cases same : sender = me <;> by_cases hop : key = address receiver <;>
    simp [same, hop, Deferral.submittedFor, Deferral.itemsFor]

end Alone

end Resolver

end Shared
