import Sponge.FileDescriptor
import Sponge.Shared.Runs

set_option autoImplicit false

namespace Sponge

open Shared

namespace EventLoop

inductive Direction
  | input
  | output
  deriving DecidableEq

inductive Result
  | success
  | timeout
  | exit
  deriving DecidableEq

structure Revents where
  readable : Bool := false
  writable : Bool := false
  hangup : Bool := false
  failed : Bool := false
  deriving DecidableEq

-- A failure of `poll` other than EINTR is swallowed, so that it reads as an answer without any event.
inductive Poll
  | timeout
  | interrupted
  | answered (revents : List Revents)

-- The closures of a rule act on a world that the descriptors live in.
structure Rule (σ : Type) where
  fd : σ → FileDescriptor
  direction : Direction
  callback : σ → σ × Except Exception Unit
  interest : σ → Bool := fun _ => true
  cancel : σ → σ × Except Exception Unit := fun world => (world, .ok ())

variable {ι σ : Type}

namespace Rule

def serviceCount (rule : Rule σ) (world : σ) : UInt32 :=
  match rule.direction with
  | .input => (rule.fd world).readCount
  | .output => (rule.fd world).writeCount

def ready (rule : Rule σ) (revents : Revents) : Bool :=
  match rule.direction with
  | .input => revents.readable
  | .output => revents.writable

def finished (rule : Rule σ) (world : σ) : Bool :=
  (rule.direction == .input && (rule.fd world).eof) || (rule.fd world).closed

end Rule

def pollError : Exception := .runtimeError "EventLoop: error on polled file descriptor"

def busyWait : Exception :=
  .runtimeError "EventLoop: busy wait detected: callback did not read/write fd and is still interested"

-- The first pass: the rules that are kept, each with whether its event is asked for. A rule whose `cancel` throws has
-- not been erased yet.
def setUp (table : ι → Rule σ) : List ι → σ → List (ι × Bool) × σ × Except Exception Unit
  | [], world => ([], world, .ok ())
  | id :: rest, world =>
      if (table id).finished world then
        match (table id).cancel world with
        | (after, .error thrown) => ((id :: rest).map (·, false), after, .error thrown)
        | (after, .ok ()) => setUp table rest after
      else
        let (polled, after) := setUp table rest world
        ((id, (table id).interest world) :: polled, after)

def dispatch (table : ι → Rule σ) : List (ι × Bool) → List Revents → σ → List ι × σ × Except Exception Unit
  | [], _, world => ([], world, .ok ())
  | (id, asked) :: rest, reports, world =>
      let revents := reports.headD {}
      if revents.failed then
        (id :: rest.map Prod.fst, world, .error pollError)
      else
        let pollReady := asked && (table id).ready revents
        if revents.hangup && asked && !pollReady then
          match (table id).cancel world with
          | (after, .error thrown) => (id :: rest.map Prod.fst, after, .error thrown)
          | (after, .ok ()) => dispatch table rest reports.tail after
        else if pollReady then
          match (table id).callback world with
          | (after, .error thrown) => (id :: rest.map Prod.fst, after, .error thrown)
          | (after, .ok ()) =>
              if (table id).serviceCount world = (table id).serviceCount after ∧ (table id).interest after = true then
                (id :: rest.map Prod.fst, after, .error busyWait)
              else
                let (kept, last, result) := dispatch table rest reports.tail after
                (id :: kept, last, result)
        else
          let (kept, last, result) := dispatch table rest reports.tail world
          (id :: kept, last, result)

def waitNextEvent (table : ι → Rule σ) (rules : List ι) (poll : Poll) (world : σ) :
    List ι × σ × Except Exception Result :=
  match setUp table rules world with
  | (polled, world, .error thrown) => (polled.map Prod.fst, world, .error thrown)
  | (polled, world, .ok ()) =>
      if polled.any Prod.snd then
        match poll with
        | .timeout => (polled.map Prod.fst, world, .ok .timeout)
        | .interrupted => (polled.map Prod.fst, world, .ok .exit)
        | .answered reports =>
            let (kept, world, result) := dispatch table polled reports world
            (kept, world, result.map fun _ => .success)
      else
        (polled.map Prod.fst, world, .ok .exit)

section Passes

variable (table : ι → Rule σ)

inductive Prepared (id : ι) (rest : List ι) (world : σ) : List (ι × Bool) × σ × Except Exception Unit → Prop
  | threw (after : σ) (thrown : Exception) (finished : (table id).finished world = true)
      (cancel : (table id).cancel world = (after, .error thrown)) :
      Prepared id rest world ((id :: rest).map (·, false), after, .error thrown)
  | cancelled (after : σ) (finished : (table id).finished world = true)
      (cancel : (table id).cancel world = (after, .ok ())) : Prepared id rest world (setUp table rest after)
  | kept (unfinished : (table id).finished world = false) :
      Prepared id rest world
        ((id, (table id).interest world) :: (setUp table rest world).1, (setUp table rest world).2)

theorem setUp_prepared {table : ι → Rule σ} {id : ι} {rest : List ι} {world : σ}
    {outcome : List (ι × Bool) × σ × Except Exception Unit} (prepared : setUp table (id :: rest) world = outcome) :
    Prepared table id rest world outcome := by
  rw [← prepared, setUp]
  cases finished : (table id).finished world with
  | true =>
      rw [if_pos rfl]
      cases called : (table id).cancel world with
      | mk after result =>
          cases result with
          | error thrown => exact .threw after thrown finished called
          | ok _ => exact .cancelled after finished called
  | false =>
      rw [if_neg Bool.noConfusion]
      exact .kept finished

theorem map_fst_unasked (rules : List ι) : (rules.map (·, false)).map Prod.fst = rules := by
  simp [Function.comp_def]

theorem setUp_sublist (rules : List ι) (world : σ) : ((setUp table rules world).1.map Prod.fst).Sublist rules := by
  induction rules generalizing world with
  | nil => exact List.Sublist.slnil
  | cons id rest ih =>
      generalize prepared : setUp table (id :: rest) world = outcome
      cases setUp_prepared prepared with
      | threw after thrown finished cancel => rw [map_fst_unasked]
      | cancelled after finished cancel => exact (ih _).cons id
      | kept unfinished => exact (ih world).cons_cons id

inductive Served (id : ι) (asked : Bool) (rest : List (ι × Bool)) (reports : List Revents) (world : σ) :
    List ι × σ × Except Exception Unit → Prop
  | stopped (after : σ) (thrown : Exception)
      (reason : after = world ∧ (reports.headD {}).failed = true ∨
        (table id).cancel world = (after, .error thrown) ∨
        after = ((table id).callback world).1 ∧ asked = true ∧
          (((table id).callback world).2 = .error thrown ∨
            (table id).serviceCount world = (table id).serviceCount after ∧ (table id).interest after = true)) :
      Served id asked rest reports world (id :: rest.map Prod.fst, after, .error thrown)
  | cancelled (after : σ) (cancel : (table id).cancel world = (after, .ok ())) :
      Served id asked rest reports world (dispatch table rest reports.tail after)
  | called (asks : asked = true) (after : σ) (callback : (table id).callback world = (after, .ok ()))
      (serviced : ¬((table id).serviceCount world = (table id).serviceCount after ∧ (table id).interest after = true)) :
      Served id asked rest reports world
        (id :: (dispatch table rest reports.tail after).1, (dispatch table rest reports.tail after).2)
  | passed :
      Served id asked rest reports world
        (id :: (dispatch table rest reports.tail world).1, (dispatch table rest reports.tail world).2)

theorem dispatch_served {table : ι → Rule σ} {id : ι} {asked : Bool} {rest : List (ι × Bool)} {reports : List Revents}
    {world : σ} {outcome : List ι × σ × Except Exception Unit}
    (served : dispatch table ((id, asked) :: rest) reports world = outcome) :
    Served table id asked rest reports world outcome := by
  rw [← served, dispatch]
  dsimp only
  split
  next failed => exact .stopped world pollError (.inl ⟨rfl, failed⟩)
  next =>
    split
    next =>
      cases called : (table id).cancel world with
      | mk after result =>
          cases result with
          | error thrown => exact .stopped after thrown (.inr (.inl called))
          | ok _ => exact .cancelled after called
    next =>
      split
      next ready =>
        simp only [Bool.and_eq_true] at ready
        cases called : (table id).callback world with
        | mk after result =>
            cases result with
            | error thrown =>
                exact .stopped after thrown (.inr (.inr ⟨by rw [called], ready.1, .inl (by rw [called])⟩))
            | ok _ =>
                dsimp only
                split
                next busy => exact .stopped after busyWait (.inr (.inr ⟨by rw [called], ready.1, .inr busy⟩))
                next serviced => exact .called ready.1 after called serviced
      next => exact .passed

end Passes

-- Conditions that the rules keep: `inv` on the world, and `live` for each rule of the loop. A rule that is called counts
-- on `armed` as well, which the other rules leave alone.
structure Preserves (table : ι → Rule σ) (inv : σ → Prop) (live armed : ι → σ → Prop) : Prop where
  callback : ∀ id world, inv world → live id world → armed id world →
    inv ((table id).callback world).1 ∧ live id ((table id).callback world).1
  cancel : ∀ id world, inv world → live id world →
    inv ((table id).cancel world).1 ∧ (((table id).cancel world).2.isOk = false → live id ((table id).cancel world).1)
  others : ∀ id other world, id ≠ other → inv world → live id world → live other world →
    live other ((table id).cancel world).1 ∧ (armed id world → live other ((table id).callback world).1)
  othersArmed : ∀ id other world, id ≠ other → inv world → live id world → armed other world →
    armed other ((table id).cancel world).1 ∧ (armed id world → armed other ((table id).callback world).1)

structure Keeps (table : ι → Rule σ) (inv : σ → Prop) (live armed : ι → σ → Prop) : Prop
    extends Preserves table inv live armed where
  arms : ∀ id world, inv world → live id world → (table id).finished world = false →
    (table id).interest world = true → armed id world

section Keeps

variable {table : ι → Rule σ} {inv : σ → Prop} {live armed : ι → σ → Prop}

structure Holds (inv : σ → Prop) (live : ι → σ → Prop) (rules : List ι) (world : σ) : Prop where
  distinct : rules.Nodup
  holds : inv world
  lives : ∀ id ∈ rules, live id world

structure Waiting (inv : σ → Prop) (live armed : ι → σ → Prop) (polled : List (ι × Bool)) (world : σ) : Prop where
  holds : Holds inv live (polled.map Prod.fst) world
  waits : ∀ entry ∈ polled, entry.2 = true → armed entry.1 world

theorem Holds.tail {id : ι} {rest : List ι} {world : σ} (holds : Holds inv live (id :: rest) world) :
    id ∉ rest ∧ live id world ∧ Holds inv live rest world := by
  obtain ⟨fresh, distinct⟩ := List.nodup_cons.mp holds.distinct
  obtain ⟨own, others⟩ := List.forall_mem_cons.mp holds.lives
  exact ⟨fresh, own, distinct, holds.holds, others⟩

theorem Preserves.cancelled (preserves : Preserves table inv live armed) {id : ι} {rest : List ι} {world : σ}
    (holds : Holds inv live (id :: rest) world) : Holds inv live rest ((table id).cancel world).1 := by
  obtain ⟨fresh, own, others⟩ := holds.tail
  refine ⟨others.distinct, (preserves.cancel id world holds.holds own).1, fun other member => ?_⟩
  have different : id ≠ other := fun same => fresh (same ▸ member)
  exact (preserves.others id other world different holds.holds own (others.lives other member)).1

theorem Preserves.threw (preserves : Preserves table inv live armed) {id : ι} {rest : List ι} {world after : σ}
    {thrown : Exception} (holds : Holds inv live (id :: rest) world)
    (cancel : (table id).cancel world = (after, .error thrown)) : Holds inv live (id :: rest) after := by
  obtain ⟨-, own, -⟩ := holds.tail
  have others := preserves.cancelled holds
  have still := (preserves.cancel id world holds.holds own).2
  rw [cancel] at others still
  exact ⟨holds.distinct, others.holds, List.forall_mem_cons.mpr ⟨still rfl, others.lives⟩⟩

theorem Preserves.called (preserves : Preserves table inv live armed) {id : ι} {rest : List ι} {world : σ}
    (holds : Holds inv live (id :: rest) world) (own : armed id world) :
    Holds inv live (id :: rest) ((table id).callback world).1 := by
  obtain ⟨fresh, alive, others⟩ := holds.tail
  obtain ⟨after, still⟩ := preserves.callback id world holds.holds alive own
  refine ⟨holds.distinct, after, List.forall_mem_cons.mpr ⟨still, fun other member => ?_⟩⟩
  have different : id ≠ other := fun same => fresh (same ▸ member)
  exact (preserves.others id other world different holds.holds alive (others.lives other member)).2 own

theorem Preserves.setUp_other (preserves : Preserves table inv live armed) {rules : List ι} {world : σ}
    (holds : Holds inv live rules world) {other : ι} (absent : other ∉ rules) :
    (live other world → live other (setUp table rules world).2.1) ∧
      (armed other world → armed other (setUp table rules world).2.1) := by
  induction rules generalizing world with
  | nil => exact ⟨id, id⟩
  | cons id rest ih =>
      obtain ⟨same, elsewhere⟩ := not_or.mp (mt List.mem_cons.mpr absent)
      obtain ⟨-, own, others⟩ := holds.tail
      have different : id ≠ other := Ne.symm same
      have lives := preserves.others id other world different holds.holds own
      have waits := preserves.othersArmed id other world different holds.holds own
      have later := preserves.cancelled holds
      generalize prepared : setUp table (id :: rest) world = outcome
      cases setUp_prepared prepared with
      | threw after thrown finished cancel =>
          rw [cancel] at lives waits
          exact ⟨fun still => (lives still).1, fun still => (waits still).1⟩
      | cancelled after finished cancel =>
          rw [cancel] at lives waits later
          obtain ⟨alive, waiting⟩ := ih later elsewhere
          exact ⟨fun still => alive (lives still).1, fun still => waiting (waits still).1⟩
      | kept unfinished => exact ih others elsewhere

theorem Preserves.setUp (preserves : Preserves table inv live armed) {rules : List ι} {world : σ}
    (holds : Holds inv live rules world) :
    Holds inv live ((EventLoop.setUp table rules world).1.map Prod.fst) (EventLoop.setUp table rules world).2.1 := by
  induction rules generalizing world with
  | nil => exact holds
  | cons id rest ih =>
      obtain ⟨fresh, own, others⟩ := holds.tail
      have later := preserves.cancelled holds
      generalize prepared : EventLoop.setUp table (id :: rest) world = outcome
      cases setUp_prepared prepared with
      | threw after thrown finished cancel =>
          rw [map_fst_unasked]
          exact preserves.threw holds cancel
      | cancelled after finished cancel =>
          rw [cancel] at later
          exact ih later
      | kept unfinished =>
          have kept := ih others
          refine ⟨List.nodup_cons.mpr ⟨?_, kept.distinct⟩, kept.holds, List.forall_mem_cons.mpr ⟨?_, kept.lives⟩⟩
          · exact fun member => fresh ((setUp_sublist table rest world).subset member)
          · exact (preserves.setUp_other others fresh).1 own

theorem Keeps.setUp (keeps : Keeps table inv live armed) {rules : List ι} {world : σ}
    (holds : Holds inv live rules world) :
    Waiting inv live armed (EventLoop.setUp table rules world).1 (EventLoop.setUp table rules world).2.1 := by
  refine ⟨keeps.toPreserves.setUp holds, ?_⟩
  induction rules generalizing world with
  | nil => exact fun _ member => absurd member List.not_mem_nil
  | cons id rest ih =>
      obtain ⟨fresh, own, others⟩ := holds.tail
      have later := keeps.cancelled holds
      generalize prepared : EventLoop.setUp table (id :: rest) world = outcome
      cases setUp_prepared prepared with
      | threw after thrown finished cancel =>
          intro entry member asked
          obtain ⟨other, -, rfl⟩ := List.mem_map.mp member
          cases asked
      | cancelled after finished cancel =>
          rw [cancel] at later
          exact ih later
      | kept unfinished =>
          refine List.forall_mem_cons.mpr ⟨fun asked => ?_, ih others⟩
          exact (keeps.setUp_other others fresh).2 (keeps.arms id world holds.holds own unfinished asked)

theorem Waiting.tail {entry : ι × Bool} {rest : List (ι × Bool)} {world : σ}
    (waiting : Waiting inv live armed (entry :: rest) world) : Waiting inv live armed rest world :=
  ⟨waiting.holds.tail.2.2, (List.forall_mem_cons.mp waiting.waits).2⟩

section Dispatch

variable (preserves : Preserves table inv live armed) {id : ι} {asked : Bool} {rest : List (ι × Bool)} {world : σ}
  (waiting : Waiting inv live armed ((id, asked) :: rest) world)
include preserves waiting

theorem Preserves.waiting_cancelled : Waiting inv live armed rest ((table id).cancel world).1 := by
  obtain ⟨fresh, own, -⟩ := waiting.holds.tail
  refine ⟨preserves.cancelled waiting.holds, fun entry member asks => ?_⟩
  have different : id ≠ entry.1 := fun same => fresh (List.mem_map.mpr ⟨entry, member, same.symm⟩)
  exact (preserves.othersArmed id entry.1 world different waiting.holds.holds own
    (waiting.waits entry (List.mem_cons_of_mem _ member) asks)).1

theorem Preserves.waiting_called (asks : asked = true) :
    Waiting inv live armed rest ((table id).callback world).1 := by
  obtain ⟨fresh, own, -⟩ := waiting.holds.tail
  have armed : armed id world := waiting.waits _ List.mem_cons_self asks
  refine ⟨(preserves.called waiting.holds armed).tail.2.2, fun entry member asks => ?_⟩
  have different : id ≠ entry.1 := fun same => fresh (List.mem_map.mpr ⟨entry, member, same.symm⟩)
  exact (preserves.othersArmed id entry.1 world different waiting.holds.holds own
    (waiting.waits entry (List.mem_cons_of_mem _ member) asks)).2 armed

end Dispatch

theorem dispatch_sublist (table : ι → Rule σ) (polled : List (ι × Bool)) (reports : List Revents) (world : σ) :
    (dispatch table polled reports world).1.Sublist (polled.map Prod.fst) := by
  induction polled generalizing world reports with
  | nil => exact List.Sublist.slnil
  | cons entry rest ih =>
      obtain ⟨id, asked⟩ := entry
      generalize served : EventLoop.dispatch table ((id, asked) :: rest) reports world = outcome
      cases dispatch_served served with
      | stopped after thrown reason => exact List.Sublist.refl _
      | cancelled after cancel => exact (ih _ _).cons id
      | called asks after callback serviced => exact (ih _ _).cons_cons id
      | passed => exact (ih _ _).cons_cons id

theorem waitNextEvent_cases {motive : List ι → σ → Prop} (table : ι → Rule σ) (rules : List ι) (poll : Poll) (world : σ)
    (polled : motive ((setUp table rules world).1.map Prod.fst) (setUp table rules world).2.1)
    (dispatched : ∀ reports, (setUp table rules world).2.2 = .ok () →
      motive (dispatch table (setUp table rules world).1 reports (setUp table rules world).2.1).1
        (dispatch table (setUp table rules world).1 reports (setUp table rules world).2.1).2.1) :
    motive (waitNextEvent table rules poll world).1 (waitNextEvent table rules poll world).2.1 := by
  unfold waitNextEvent
  generalize setUp table rules world = outcome at polled dispatched
  obtain ⟨kept, after, result⟩ := outcome
  cases result with
  | error thrown => exact polled
  | ok _ =>
      dsimp only
      split
      · cases poll with
        | timeout => exact polled
        | interrupted => exact polled
        | answered reports => exact dispatched reports rfl
      · exact polled

theorem waitNextEvent_sublist (table : ι → Rule σ) (rules : List ι) (poll : Poll) (world : σ) :
    (waitNextEvent table rules poll world).1.Sublist rules := by
  have polled := setUp_sublist table rules world
  exact waitNextEvent_cases (motive := fun kept _ => kept.Sublist rules) table rules poll world polled
    fun reports _ => (dispatch_sublist ..).trans polled

theorem Preserves.dispatch_other (preserves : Preserves table inv live armed) {polled : List (ι × Bool)}
    (reports : List Revents) {world : σ} (waiting : Waiting inv live armed polled world) {other : ι}
    (absent : other ∉ polled.map Prod.fst) (alive : live other world) :
    live other (dispatch table polled reports world).2.1 := by
  induction polled generalizing world reports with
  | nil => exact alive
  | cons entry rest ih =>
      obtain ⟨id, asked⟩ := entry
      obtain ⟨same, elsewhere⟩ := not_or.mp (mt List.mem_cons.mpr absent)
      obtain ⟨-, own, -⟩ := waiting.holds.tail
      have after := preserves.others id other world (Ne.symm same) waiting.holds.holds own alive
      have later := preserves.waiting_cancelled waiting
      generalize served : EventLoop.dispatch table ((id, asked) :: rest) reports world = outcome
      cases dispatch_served served with
      | stopped after' thrown reason =>
          rcases reason with ⟨rfl, -⟩ | cancel | ⟨rfl, asks, -⟩
          · exact alive
          · rw [cancel] at after
            exact after.1
          · exact after.2 (waiting.waits _ List.mem_cons_self asks)
      | cancelled after' cancel =>
          rw [cancel] at after later
          exact ih _ later elsewhere after.1
      | called asks after' callback serviced =>
          obtain rfl : ((table id).callback world).1 = after' := by rw [callback]
          exact ih _ (preserves.waiting_called waiting asks) elsewhere
            (after.2 (waiting.waits _ List.mem_cons_self asks))
      | passed => exact ih _ waiting.tail elsewhere alive

theorem Preserves.dispatch (preserves : Preserves table inv live armed) {polled : List (ι × Bool)}
    (reports : List Revents) {world : σ} (waiting : Waiting inv live armed polled world) :
    Holds inv live (dispatch table polled reports world).1 (EventLoop.dispatch table polled reports world).2.1 := by
  induction polled generalizing world reports with
  | nil => exact waiting.holds
  | cons entry rest ih =>
      obtain ⟨id, asked⟩ := entry
      obtain ⟨fresh, own, -⟩ := waiting.holds.tail
      have later := preserves.waiting_cancelled waiting
      -- A rule that was served lives on beside those that are served after it.
      have join {next : σ} (later : Waiting inv live armed rest next) (alive : live id next) :
          Holds inv live (id :: (EventLoop.dispatch table rest reports.tail next).1)
            (EventLoop.dispatch table rest reports.tail next).2.1 := by
        have holds := ih reports.tail later
        refine ⟨List.nodup_cons.mpr ⟨?_, holds.distinct⟩, holds.holds, List.forall_mem_cons.mpr ⟨?_, holds.lives⟩⟩
        · exact fun member => fresh ((dispatch_sublist table rest reports.tail next).subset member)
        · exact preserves.dispatch_other reports.tail later fresh alive
      generalize served : EventLoop.dispatch table ((id, asked) :: rest) reports world = outcome
      cases dispatch_served served with
      | stopped after thrown reason =>
          rcases reason with ⟨rfl, -⟩ | cancel | ⟨rfl, asks, -⟩
          · exact waiting.holds
          · exact preserves.threw waiting.holds cancel
          · exact preserves.called waiting.holds (waiting.waits _ List.mem_cons_self asks)
      | cancelled after cancel =>
          rw [cancel] at later
          exact ih _ later
      | called asks after callback serviced =>
          obtain rfl : ((table id).callback world).1 = after := by rw [callback]
          have armed : armed id world := waiting.waits _ List.mem_cons_self asks
          exact join (preserves.waiting_called waiting asks)
            (preserves.callback id world waiting.holds.holds own armed).2
      | passed => exact join waiting.tail own

theorem Keeps.waitNextEvent (keeps : Keeps table inv live armed) {rules : List ι} (poll : Poll) {world : σ}
    (holds : Holds inv live rules world) :
    Holds inv live (waitNextEvent table rules poll world).1 (EventLoop.waitNextEvent table rules poll world).2.1 :=
  have waiting := keeps.setUp holds
  waitNextEvent_cases table rules poll world waiting.holds fun reports _ => keeps.dispatch reports waiting

structure Serves (table : ι → Rule σ) (inv : σ → Prop) (live armed : ι → σ → Prop) : Prop
    extends Preserves table inv live armed where
  cancels : ∀ id world, inv world → live id world → ((table id).cancel world).2 = .ok ()
  returns : ∀ id world, inv world → live id world → armed id world → ((table id).callback world).2 = .ok ()
  services : ∀ id world, inv world → live id world → armed id world →
    (table id).serviceCount world ≠ (table id).serviceCount ((table id).callback world).1 ∨
      (table id).interest ((table id).callback world).1 = false

theorem Serves.setUp (serves : Serves table inv live armed) {rules : List ι} {world : σ}
    (holds : Holds inv live rules world) : (EventLoop.setUp table rules world).2.2 = .ok () := by
  induction rules generalizing world with
  | nil => rfl
  | cons id rest ih =>
      obtain ⟨-, own, others⟩ := holds.tail
      have later := serves.cancelled holds
      have returns := serves.cancels id world holds.holds own
      generalize prepared : EventLoop.setUp table (id :: rest) world = outcome
      cases setUp_prepared prepared with
      | threw after thrown finished cancel =>
          rw [cancel] at returns
          cases returns
      | cancelled after finished cancel =>
          rw [cancel] at later
          exact ih later
      | kept unfinished => exact ih others

theorem Serves.dispatch (serves : Serves table inv live armed) {polled : List (ι × Bool)} {reports : List Revents}
    (intact : ∀ revents ∈ reports, revents.failed = false) {world : σ}
    (waiting : Waiting inv live armed polled world) : (dispatch table polled reports world).2.2 = .ok () := by
  induction polled generalizing world reports with
  | nil => rfl
  | cons entry rest ih =>
      obtain ⟨id, asked⟩ := entry
      obtain ⟨-, own, -⟩ := waiting.holds.tail
      have following : ∀ revents ∈ reports.tail, revents.failed = false :=
        fun revents member => intact revents (List.mem_of_mem_tail member)
      have later := serves.waiting_cancelled waiting
      have cancels := serves.cancels id world waiting.holds.holds own
      generalize served : EventLoop.dispatch table ((id, asked) :: rest) reports world = outcome
      cases dispatch_served served with
      | stopped after thrown reason =>
          rcases reason with ⟨-, failed⟩ | cancel | ⟨rfl, asks, reason⟩
          · cases reports with
            | nil => cases failed
            | cons revents more =>
                rw [List.headD_cons, intact revents List.mem_cons_self] at failed
                cases failed
          · rw [cancel] at cancels
            cases cancels
          · have armed : armed id world := waiting.waits _ List.mem_cons_self asks
            have returns := serves.returns id world waiting.holds.holds own armed
            rcases reason with threw | busy
            · rw [returns] at threw
              cases threw
            · rcases serves.services id world waiting.holds.holds own armed with serviced | content
              · exact absurd busy.1 serviced
              · exact absurd busy.2 (by rw [content]; decide)
      | cancelled after cancel =>
          rw [cancel] at later
          exact ih following later
      | called asks after callback serviced =>
          obtain rfl : ((table id).callback world).1 = after := by rw [callback]
          exact ih following (serves.waiting_called waiting asks)
      | passed => exact ih following waiting.tail

def Poll.Intact : Poll → Prop
  | .answered reports => ∀ revents ∈ reports, revents.failed = false
  | _ => True

theorem Serves.waitNextEvent (serves : Serves table inv live armed) {rules : List ι} {poll : Poll}
    (intact : poll.Intact) {world : σ} (holds : Holds inv live rules world)
    (waits : ∀ entry ∈ (EventLoop.setUp table rules world).1, entry.2 = true →
      armed entry.1 (EventLoop.setUp table rules world).2.1) :
    ∃ result, (waitNextEvent table rules poll world).2.2 = .ok result := by
  have returns := serves.setUp holds
  have waiting : Waiting inv live armed _ _ := ⟨serves.toPreserves.setUp holds, waits⟩
  unfold EventLoop.waitNextEvent
  generalize EventLoop.setUp table rules world = outcome at returns waiting
  obtain ⟨polled, after, result⟩ := outcome
  obtain rfl : result = .ok () := returns
  dsimp only
  split
  · cases poll with
    | timeout => exact ⟨_, rfl⟩
    | interrupted => exact ⟨_, rfl⟩
    | answered reports =>
        exact ⟨.success, congrArg (Except.map fun _ => Result.success) (serves.dispatch intact waiting)⟩
  · exact ⟨_, rfl⟩

end Keeps

section Gone

variable {table : ι → Rule σ} {gone : ι → σ → Prop}
  (cancels : ∀ id world, ((table id).cancel world).2 = .ok () → gone id ((table id).cancel world).1)
  (lasting : ∀ id other world, gone id world →
    gone id ((table other).cancel world).1 ∧ gone id ((table other).callback world).1)
include cancels lasting

theorem setUp_gone {id : ι} {rules : List ι} {world : σ} (known : id ∈ rules ∨ gone id world) :
    id ∈ (setUp table rules world).1.map Prod.fst ∨ gone id (setUp table rules world).2.1 := by
  induction rules generalizing world with
  | nil => exact known
  | cons first rest ih =>
      have own := cancels first world
      have stays := fun already => (lasting id first world already).1
      have parts : id = first ∨ id ∈ rest ∨ gone id world := by rwa [List.mem_cons, or_assoc] at known
      generalize prepared : setUp table (first :: rest) world = outcome
      cases setUp_prepared prepared with
      | threw after thrown finished cancel =>
          rw [cancel] at stays
          rw [map_fst_unasked]
          exact known.imp_right stays
      | cancelled after finished cancel =>
          rw [cancel] at own stays
          rcases parts with rfl | later
          · exact ih (.inr (own rfl))
          · exact ih (later.imp_right stays)
      | kept unfinished =>
          rcases parts with rfl | later
          · exact .inl List.mem_cons_self
          · exact (ih later).imp_left (List.mem_cons_of_mem _)

theorem dispatch_gone {id : ι} {polled : List (ι × Bool)} (reports : List Revents) {world : σ}
    (known : id ∈ polled.map Prod.fst ∨ gone id world) :
    id ∈ (dispatch table polled reports world).1 ∨ gone id (dispatch table polled reports world).2.1 := by
  induction polled generalizing world reports with
  | nil => exact known
  | cons entry rest ih =>
      obtain ⟨first, asked⟩ := entry
      have own := cancels first world
      have stays := fun already => (lasting id first world already).1
      have parts : id = first ∨ id ∈ rest.map Prod.fst ∨ gone id world := by
        rwa [List.map_cons, List.mem_cons, or_assoc] at known
      generalize served : dispatch table ((first, asked) :: rest) reports world = outcome
      cases dispatch_served served with
      | stopped after thrown reason =>
          rcases reason with ⟨rfl, -⟩ | cancel | ⟨rfl, -, -⟩
          · exact known
          · rw [cancel] at stays
            exact known.imp_right stays
          · exact known.imp_right fun already => (lasting id first world already).2
      | cancelled after cancel =>
          rw [cancel] at own stays
          rcases parts with rfl | later
          · exact ih _ (.inr (own rfl))
          · exact ih _ (later.imp_right stays)
      | called asks after callback serviced =>
          obtain rfl : ((table first).callback world).1 = after := by rw [callback]
          rcases parts with rfl | later
          · exact .inl List.mem_cons_self
          · have next := later.imp_right fun already => (lasting id first world already).2
            exact (ih _ next).imp_left (List.mem_cons_of_mem _)
      | passed =>
          rcases parts with rfl | later
          · exact .inl List.mem_cons_self
          · exact (ih _ later).imp_left (List.mem_cons_of_mem _)

theorem waitNextEvent_gone {id : ι} {rules : List ι} (poll : Poll) {world : σ} (known : id ∈ rules ∨ gone id world) :
    id ∈ (waitNextEvent table rules poll world).1 ∨ gone id (waitNextEvent table rules poll world).2.1 := by
  have polled := setUp_gone cancels lasting known
  exact waitNextEvent_cases (motive := fun kept after => id ∈ kept ∨ gone id after) table rules poll world polled
    fun reports _ => dispatch_gone cancels lasting reports polled

end Gone

section Exit

variable {table : ι → Rule σ} {rules : List ι} {world : σ}

theorem waitNextEvent_idle {poll : Poll} (returned : (setUp table rules world).2.2 = .ok ())
    (quiet : (setUp table rules world).1.any Prod.snd = false) :
    (waitNextEvent table rules poll world).2.2 = .ok .exit := by
  unfold waitNextEvent
  generalize setUp table rules world = outcome at returned quiet
  obtain ⟨polled, after, result⟩ := outcome
  obtain rfl : result = .ok () := returned
  dsimp only at quiet ⊢
  rw [if_neg (by rw [quiet]; exact Bool.noConfusion)]

theorem waitNextEvent_exit_iff {poll : Poll} (undisturbed : poll ≠ .interrupted) :
    (waitNextEvent table rules poll world).2.2 = .ok .exit ↔
      (setUp table rules world).2.2 = .ok () ∧ (setUp table rules world).1.any Prod.snd = false := by
  unfold waitNextEvent
  generalize setUp table rules world = outcome
  obtain ⟨polled, after, result⟩ := outcome
  cases result with
  | error thrown => exact iff_of_false (fun same => by cases same) fun both => by cases both.1
  | ok _ =>
      dsimp only
      split
      next asks =>
        rw [asks]
        refine iff_of_false ?_ fun both => Bool.noConfusion both.2
        cases poll with
        | timeout => exact fun same => by cases same
        | interrupted => exact absurd rfl undisturbed
        | answered reports =>
            cases result : (dispatch table polled reports after).2.2 with
            | ok _ => exact fun same => by simp [result, Except.map] at same
            | error thrown => exact fun same => by simp [result, Except.map] at same
      next quiet => exact ⟨fun _ => ⟨rfl, by simpa using quiet⟩, fun _ => rfl⟩

theorem waitNextEvent_exit_eq {poll : Poll} (undisturbed : poll ≠ .interrupted)
    (exits : (waitNextEvent table rules poll world).2.2 = .ok .exit) :
    (waitNextEvent table rules poll world).1 = (setUp table rules world).1.map Prod.fst ∧
      (waitNextEvent table rules poll world).2.1 = (setUp table rules world).2.1 := by
  obtain ⟨returned, quiet⟩ := (waitNextEvent_exit_iff undisturbed).mp exits
  unfold waitNextEvent
  generalize setUp table rules world = outcome at returned quiet
  obtain ⟨polled, after, result⟩ := outcome
  obtain rfl : result = .ok () := returned
  dsimp only at quiet ⊢
  rw [if_neg (by rw [quiet]; exact Bool.noConfusion)]
  exact ⟨rfl, rfl⟩

theorem setUp_invariant {inv : σ → Prop} (kept : ∀ id ∈ rules, ∀ world, inv world → inv ((table id).cancel world).1)
    (holds : inv world) : inv (setUp table rules world).2.1 := by
  induction rules generalizing world with
  | nil => exact holds
  | cons id rest ih =>
      rw [List.forall_mem_cons] at kept
      have once := kept.1 world holds
      generalize prepared : setUp table (id :: rest) world = outcome
      cases setUp_prepared prepared with
      | threw after thrown finished cancel => rwa [cancel] at once
      | cancelled after finished cancel =>
          rw [cancel] at once
          exact ih kept.2 once
      | kept unfinished => exact ih kept.2 holds

theorem setUp_quiet
    (apart : rules.Pairwise fun earlier later => ∀ world,
      (table earlier).interest world = false → (table earlier).interest ((table later).cancel world).1 = false)
    (returned : (setUp table rules world).2.2 = .ok ()) (quiet : (setUp table rules world).1.any Prod.snd = false) :
    ∀ id ∈ (setUp table rules world).1.map Prod.fst, (table id).interest (setUp table rules world).2.1 = false := by
  induction rules generalizing world with
  | nil => exact fun _ member => absurd member List.not_mem_nil
  | cons id rest ih =>
      obtain ⟨own, others⟩ := List.pairwise_cons.mp apart
      generalize prepared : setUp table (id :: rest) world = outcome at returned quiet
      cases setUp_prepared prepared with
      | threw after thrown finished cancel => cases returned
      | cancelled after finished cancel => exact ih others returned quiet
      | kept unfinished =>
          rw [List.any_cons, Bool.or_eq_false_iff] at quiet
          exact List.forall_mem_cons.mpr ⟨setUp_invariant own quiet.1, ih others returned quiet.2⟩

end Exit

section Log

inductive Call (ι : Type)
  | callback (rule : ι)
  | cancel (rule : ι) (returned : Bool)
  deriving DecidableEq

def Call.rule : Call ι → ι
  | .callback rule => rule
  | .cancel rule _ => rule

def logged (table : ι → Rule σ) (id : ι) : Rule (σ × List (Call ι)) where
  fd := fun world => (table id).fd world.1
  direction := (table id).direction
  callback := fun world =>
    ((((table id).callback world.1).1, world.2 ++ [.callback id]), ((table id).callback world.1).2)
  interest := fun world => (table id).interest world.1
  cancel := fun world =>
    ((((table id).cancel world.1).1, world.2 ++ [.cancel id ((table id).cancel world.1).2.isOk]),
      ((table id).cancel world.1).2)

def logStep (table : ι → Rule σ) (state : List ι × σ × List (Call ι)) (op : Poll × (σ → σ)) :
    List ι × σ × List (Call ι) :=
  let waited := waitNextEvent (logged table) state.1 op.1 (op.2 state.2.1, state.2.2)
  (waited.1, waited.2.1)

def Final (log : List (Call ι)) : Prop :=
  ∀ front id back, log = front ++ .cancel id true :: back → ∀ call ∈ back, call.rule ≠ id

theorem Final.snoc {log : List (Call ι)} (final : Final log) {call : Call ι} (alive : .cancel call.rule true ∉ log) :
    Final (log ++ [call]) := by
  intro front id back split
  rcases List.eq_nil_or_concat back with rfl | ⟨init, last, rfl⟩
  · exact fun _ member => absurd member List.not_mem_nil
  · rw [List.concat_eq_append] at split ⊢
    rw [← List.cons_append, ← List.append_assoc] at split
    obtain ⟨before, ends⟩ := List.append_inj' split rfl
    obtain rfl : call = last := by simpa using ends
    intro later member
    rcases List.mem_append.mp member with earlier | now
    · exact final front id init before later earlier
    · rw [List.mem_singleton] at now
      rintro rfl
      exact alive (by rw [before, now]; simp)

theorem logged_keeps (table : ι → Rule σ) :
    Keeps (logged table) (fun world => Final world.2) (fun id world => .cancel id true ∉ world.2) fun _ _ => True where
  arms := fun _ _ _ _ _ _ => trivial
  callback := by
    intro id world final alive _
    have next : Final (world.2 ++ [.callback id]) := final.snoc alive
    exact ⟨next, by simpa [logged] using alive⟩
  cancel := by
    intro id world final alive
    have next : Final (world.2 ++ [.cancel id ((table id).cancel world.1).2.isOk]) := final.snoc alive
    refine ⟨next, fun threw => ?_⟩
    change ((table id).cancel world.1).2.isOk = false at threw
    simpa [logged, threw] using alive
  others := by
    intro id other world different _ _ alive
    exact ⟨by simpa [logged, different.symm] using alive, fun _ => by simpa [logged] using alive⟩
  othersArmed := fun _ _ _ _ _ _ _ => ⟨trivial, fun _ => trivial⟩

theorem setUp_log (table : ι → Rule σ) (rules : List ι) (world : σ) (log : List (Call ι)) :
    ∃ calls : List (Call ι),
      (setUp (logged table) rules (world, log)).2.1.2 = log ++ calls ∧ (calls.map Call.rule).Sublist rules ∧
        ((setUp (logged table) rules (world, log)).2.2 = .ok () →
          (calls.map Call.rule ++ (setUp (logged table) rules (world, log)).1.map Prod.fst).Perm rules) := by
  induction rules generalizing world log with
  | nil => exact ⟨[], (List.append_nil _).symm, .slnil, fun _ => .refl _⟩
  | cons id rest ih =>
      generalize prepared : setUp (logged table) (id :: rest) (world, log) = outcome
      cases setUp_prepared prepared with
      | threw after thrown finished cancel =>
          obtain rfl : ((logged table id).cancel (world, log)).1 = after := by rw [cancel]
          exact ⟨[_], rfl, (List.nil_sublist rest).cons_cons id, fun returned => by cases returned⟩
      | cancelled after finished cancel =>
          obtain rfl : ((logged table id).cancel (world, log)).1 = after := by rw [cancel]
          obtain ⟨calls, added, sublist, perm⟩ := ih ((table id).cancel world).1
            (log ++ [.cancel id ((table id).cancel world).2.isOk])
          refine ⟨.cancel id ((table id).cancel world).2.isOk :: calls, ?_, sublist.cons_cons id, fun returned =>
            (perm returned).cons id⟩
          rw [List.append_cons]
          exact added
      | kept unfinished =>
          obtain ⟨calls, added, sublist, perm⟩ := ih world log
          exact ⟨calls, added, sublist.cons id, fun returned => List.perm_middle.trans ((perm returned).cons id)⟩

theorem dispatch_log (table : ι → Rule σ) (polled : List (ι × Bool)) (reports : List Revents) (world : σ)
    (log : List (Call ι)) :
    ∃ calls : List (Call ι),
      (dispatch (logged table) polled reports (world, log)).2.1.2 = log ++ calls ∧
        (calls.map Call.rule).Sublist (polled.map Prod.fst) := by
  induction polled generalizing world log reports with
  | nil => exact ⟨[], (List.append_nil _).symm, List.Sublist.slnil⟩
  | cons entry rest ih =>
      obtain ⟨id, asked⟩ := entry
      generalize served : dispatch (logged table) ((id, asked) :: rest) reports (world, log) = outcome
      cases dispatch_served served with
      | stopped after thrown reason =>
          rcases reason with ⟨rfl, -⟩ | cancel | ⟨rfl, -, -⟩
          · exact ⟨[], (List.append_nil _).symm, List.nil_sublist _⟩
          · obtain rfl : ((logged table id).cancel (world, log)).1 = after := by rw [cancel]
            exact ⟨[_], rfl, (List.nil_sublist _).cons_cons id⟩
          · exact ⟨[.callback id], rfl, (List.nil_sublist _).cons_cons id⟩
      | cancelled after cancel =>
          obtain rfl : ((logged table id).cancel (world, log)).1 = after := by rw [cancel]
          obtain ⟨calls, added, sublist⟩ := ih reports.tail ((table id).cancel world).1
            (log ++ [.cancel id ((table id).cancel world).2.isOk])
          refine ⟨.cancel id ((table id).cancel world).2.isOk :: calls, ?_, sublist.cons_cons id⟩
          rw [List.append_cons]
          exact added
      | called asks after callback serviced =>
          obtain rfl : (logged table id |>.callback (world, log)).1 = after := by rw [callback]
          obtain ⟨calls, added, sublist⟩ := ih reports.tail ((table id).callback world).1 (log ++ [.callback id])
          exact ⟨.callback id :: calls, by rw [List.append_cons]; exact added, sublist.cons_cons id⟩
      | passed =>
          obtain ⟨calls, added, sublist⟩ := ih reports.tail world log
          exact ⟨calls, added, sublist.cons id⟩

theorem logStep_calls (table : ι → Rule σ) {state : List ι × σ × List (Call ι)} (distinct : state.1.Nodup)
    (op : Poll × (σ → σ)) :
    ∃ calls, (logStep table state op).2.2 = state.2.2 ++ calls ∧ (calls.map Call.rule).Nodup ∧
      ∀ call ∈ calls, call.rule ∈ state.1 := by
  obtain ⟨early, added, ordered, perm⟩ := setUp_log table state.1 (op.2 state.2.1) state.2.2
  refine waitNextEvent_cases (motive := fun _ after => ∃ calls, after.2 = state.2.2 ++ calls ∧
    (calls.map Call.rule).Nodup ∧ ∀ call ∈ calls, call.rule ∈ state.1) (logged table) state.1 op.1 _ ?_ ?_
  · exact ⟨early, added, ordered.nodup distinct, fun call member => ordered.subset (List.mem_map_of_mem member)⟩
  · intro reports returned
    obtain ⟨late, more, sublist⟩ := dispatch_log table (setUp (logged table) state.1 (op.2 state.2.1, state.2.2)).1
      reports (setUp (logged table) state.1 (op.2 state.2.1, state.2.2)).2.1.1 _
    have within := sublist.append_left (early.map Call.rule)
    have all := perm returned
    refine ⟨early ++ late, by rw [← List.append_assoc, ← added]; exact more, ?_, fun call member => ?_⟩
    · rw [List.map_append]
      exact within.nodup (all.nodup_iff.mpr distinct)
    · have named : call.rule ∈ early.map Call.rule ++ late.map Call.rule := by
        rw [← List.map_append]
        exact List.mem_map_of_mem member
      exact all.mem_iff.mp (within.subset named)

structure Logged (start : List ι) (state : List ι × σ × List (Call ι)) : Prop where
  holds : Holds (fun world : σ × List (Call ι) => Final world.2) (fun id world => .cancel id true ∉ world.2) state.1
    state.2
  leaves : ∀ id ∈ start, id ∈ state.1 ∨ .cancel id true ∈ state.2.2

theorem Logged.step {start : List ι} {state : List ι × σ × List (Call ι)} (before : Logged start state)
    (table : ι → Rule σ) (op : Poll × (σ → σ)) : Logged start (logStep table state op) where
  holds := (logged_keeps table).waitNextEvent op.1 ⟨before.holds.distinct, before.holds.holds, before.holds.lives⟩
  leaves := by
    intro id member
    refine @waitNextEvent_gone ι _ (logged table) (fun id world => .cancel id true ∈ world.2) ?_
      (fun _ _ _ already => ⟨List.mem_append_left _ already, List.mem_append_left _ already⟩) id state.1 op.1
      (op.2 state.2.1, state.2.2) (before.leaves id member)
    intro id world returned
    change ((table id).cancel world.1).2 = .ok () at returned
    have last : .cancel id true ∈ world.2 ++ [.cancel id ((table id).cancel world.1).2.isOk] := by
      rw [returned]
      exact List.mem_append_right _ List.mem_cons_self
    exact last

theorem run_logged (table : ι → Rule σ) {rules : List ι} (distinct : rules.Nodup) (world : σ)
    (ops : List (Poll × (σ → σ))) : Logged rules (ops.foldl (logStep table) (rules, world, [])) := by
  induction ops using List.reverseRecOn with
  | nil =>
      refine ⟨⟨distinct, ?_, fun _ _ => List.not_mem_nil⟩, fun _ member => .inl member⟩
      intro front id back split
      simp at split
  | append_singleton ops op ih =>
      rw [List.foldl_append]
      exact ih.step table op

theorem cancelled_rule_left_alone (table : ι → Rule σ) (rules : List ι) (distinct : rules.Nodup) (world : σ)
    (ops : List (Poll × (σ → σ))) :
    let last := ops.foldl (logStep table) (rules, world, [])
    Final last.2.2 ∧ (∀ id ∈ rules, id ∈ last.1 ↔ .cancel id true ∉ last.2.2) ∧
      ∀ front op back, ops = front ++ op :: back →
        let before := front.foldl (logStep table) (rules, world, [])
        ∃ calls, (logStep table before op).2.2 = before.2.2 ++ calls ∧ (calls.map Call.rule).Nodup ∧
          ∀ call ∈ calls, call.rule ∈ before.1 := by
  have last := run_logged table distinct world ops
  refine ⟨last.holds.holds, fun id member => ⟨last.holds.lives id, fun alive => ?_⟩, fun front op back _ => ?_⟩
  · exact (last.leaves id member).resolve_right alive
  · exact logStep_calls table (run_logged table distinct world front).holds.distinct op

-- Two rules on one descriptor: the reader meets the end of the file, and the writer, which is hung up on later, throws
-- when it is cancelled for the first time.
def readerAndWriter : Bool → Rule FileDescriptor
  | true => { fd := id, direction := .input, callback := fun fd => ({ fd.registerRead with eof := true }, .ok ()) }
  | false =>
      { fd := id
        direction := .output
        callback := fun fd => (fd.registerWrite, .ok ())
        cancel := fun fd => (fd.registerWrite, if fd.writeCount = 1 then .error (.runtimeError "cancel") else .ok ()) }

def untilHangup : List (Poll × (FileDescriptor → FileDescriptor)) :=
  [(.answered [{ readable := true }, { writable := true }], id), (.interrupted, id),
    (.answered [{ hangup := true }], id), (.answered [{ hangup := true }], id), (.timeout, FileDescriptor.registerRead)]

theorem cancelled_rule_left_alone_hangup :
    [true, false].Nodup ∧
      let last := untilHangup.foldl (logStep readerAndWriter) ([true, false], {}, [])
      last.2.2 =
          [.callback true, .callback false, .cancel true true, .cancel false false, .cancel false true] ∧
        last.1 = [] ∧ Final last.2.2 := by
  have distinct : [true, false].Nodup := by decide
  exact ⟨distinct, by decide +kernel, by decide +kernel,
    (cancelled_rule_left_alone readerAndWriter [true, false] distinct {} untilHangup).1⟩

end Log

end EventLoop

end Sponge
