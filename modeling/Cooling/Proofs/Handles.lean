-- SUMMARY: Any number of sensors over time: every handle that a driver gets hold of is given back once, in order, and not used after that.
import Cooling.Proofs.Lifecycle

/-!
# Handles

Sensors are built, read, shut down and let go in any order, on a machine that changes
meanwhile. Each of them follows a lifecycle of its own, whatever the others do: what is
asked on its behalf is a run from the first phase to the one that it is in. So all
handles together are balanced, and each sensor uses its handles only while it holds them.
-/

namespace Cooling

open Program

/-! ## Pools of sensors -/

/-- Sensors that were built on one machine over time. -/
structure Pool where
  machine : Machine
  /-- The sensors by number. There is none under the number of a sensor that could not
      be built or was let go. -/
  sensors : List (Option Sensor) := []
  /-- What was asked so far, with the number of the sensor on whose behalf. -/
  log : List (Nat × Entry) := []

namespace Pool

inductive Operation where
  | build (doNotDisturb : Bool) (spec : SensorSpec)
  | read (n : Nat)
  | shutDown (n : Nat)
  | release (n : Nat)
  /-- A change of the machine from outside. -/
  | change (c : Change)

/-- The sensor with the number, if it is there. -/
def sensor? (pool : Pool) (n : Nat) : Option Sensor := pool.sensors[n]?.join

/-- Runs a program on behalf of a sensor, which becomes what the value says. -/
def act (pool : Pool) (n : Nat) (x : Program α) (next : α → Option Sensor) : Pool where
  machine := x.after pool.machine
  sensors := pool.sensors.set n (next (x.value pool.machine))
  log := pool.log ++ (x.trace pool.machine).map fun e => (n, e)

/-- Does something with a sensor, if it is there. -/
def withSensor (pool : Pool) (n : Nat) (action : Sensor → Pool) : Pool :=
  match pool.sensor? n with
  | some s => action s
  | none => pool

/-- A pool with one more number. -/
def grow (pool : Pool) : Pool := { pool with sensors := pool.sensors ++ [none] }

def step (pool : Pool) : Operation → Pool
  | .build doNotDisturb spec =>
    pool.grow.act pool.sensors.length (Config.buildSensor doNotDisturb spec).run Except.toOption
  | .read n => pool.withSensor n fun s => pool.act n s.read fun _ => some s
  | .shutDown n => pool.withSensor n fun s => pool.act n s.shutdown.run fun _ => some s.ended
  | .release n => pool.withSensor n fun s => pool.act n s.release fun _ => none
  | .change c => { pool with machine := pool.machine.change c }

/-- The pool after operations on a machine. -/
def after (m : Machine) (operations : List Operation) : Pool :=
  operations.foldl step { machine := m }

/-- Everything that was asked. -/
def entries (pool : Pool) : List Entry := pool.log.map Prod.snd

/-- What was asked on behalf of a sensor. -/
def calls (pool : Pool) (n : Nat) : List Entry := (pool.log.filter (·.1 == n)).map Prod.snd

/-- What is held under a number. -/
def handles (pool : Pool) (n : Nat) : List Handle := (pool.sensor? n).elim [] Sensor.handles

/-- How many sensors hold a handle. -/
def holders (pool : Pool) (handle : Handle) : Nat :=
  pool.sensors.countP fun s? => s?.any fun s => handle ∈ s.handles

end Pool

/-! ## Lifecycles of sensors -/

theorem Sensor.nodup_handles (s : Sensor) : s.handles.Nodup := by
  unfold handles
  split
  · simp
  · split <;> simp
  · exact .nil

/-- The phase of a sensor, or of one that is not there. -/
def Sensor.Status (s? : Option Sensor) (p : Phase) : Prop := s?.elim p.Idle fun s => s.InPhase p

theorem Sensor.Status.count_handles {s? : Option Sensor} {p : Phase} (h : Status s? p)
    (handle : Handle) :
    p.handles.count handle = if s?.any fun s => handle ∈ s.handles then 1 else 0 := by
  cases s? with
  | none =>
    rw [Phase.Idle.handles h]
    rfl
  | some s =>
    rw [InPhase.handles_eq h, s.nodup_handles.count]
    simp

namespace Pool

/-- What is asked on behalf of each sensor is a run of its lifecycle. -/
structure Sound (m : Machine) (pool : Pool) : Prop where
  history : pool.machine.history = m.history ++ pool.entries
  /-- Nothing was asked for sensors to come. -/
  later : ∀ n, pool.sensors.length ≤ n → pool.calls n = []
  lifecycle : ∀ n, ∃ p, Phase.Run .fresh (pool.calls n) p ∧ Sensor.Status (pool.sensor? n) p
  balance : ∀ handle, (takenIn pool.entries).count handle =
    (givenIn pool.entries).count handle + pool.holders handle

variable {m : Machine} {pool : Pool}

theorem sound_nil (m : Machine) : Sound m { machine := m } where
  history := (List.append_nil _).symm
  later := fun _ _ => rfl
  lifecycle := fun _ => ⟨.fresh, .nil _, .inl rfl⟩
  balance := fun _ => rfl

/-! ### What an action alters -/

@[simp] theorem entries_act (pool : Pool) (n : Nat) (x : Program α) (next : α → Option Sensor) :
    (pool.act n x next).entries = pool.entries ++ x.trace pool.machine := by
  simp [entries, act, Function.comp_def]

theorem calls_act_self (pool : Pool) (n : Nat) (x : Program α) (next : α → Option Sensor) :
    (pool.act n x next).calls n = pool.calls n ++ x.trace pool.machine := by
  simp [calls, act, List.filter_map, Function.comp_def]

theorem calls_act_of_ne (pool : Pool) {n k : Nat} (h : n ≠ k) (x : Program α)
    (next : α → Option Sensor) : (pool.act n x next).calls k = pool.calls k := by
  simp [calls, act, List.filter_map, Function.comp_def, h]

theorem sensor?_act_self (pool : Pool) {n : Nat} (h : n < pool.sensors.length) (x : Program α)
    (next : α → Option Sensor) :
    (pool.act n x next).sensor? n = next (x.value pool.machine) := by
  simp [sensor?, act, h]

theorem sensor?_act_of_ne (pool : Pool) {n k : Nat} (h : n ≠ k) (x : Program α)
    (next : α → Option Sensor) : (pool.act n x next).sensor? k = pool.sensor? k := by
  simp [sensor?, act, h]

/-! ### What an action keeps -/

/-- A program that follows the lifecycle of a sensor keeps the pool sound, whatever the
    other sensors hold. -/
theorem Sound.act (h : Sound m pool) {n : Nat} (hn : n < pool.sensors.length) {x : Program α}
    {next : α → Option Sensor}
    (hx : ∀ p, Phase.Run .fresh (pool.calls n) p → Sensor.Status (pool.sensor? n) p →
      x.Follows p fun a q => Sensor.Status (next a) q) :
    Sound m (pool.act n x next) := by
  obtain ⟨p, hrun, hstatus⟩ := h.lifecycle n
  obtain ⟨q, hrun', hstatus'⟩ := (hx p hrun hstatus).trace pool.machine
  constructor
  case history =>
    rw [entries_act, ← List.append_assoc, ← h.history]
    exact x.history_after pool.machine
  case later =>
    intro k hk
    have hlength : (pool.act n x next).sensors.length = pool.sensors.length := List.length_set
    rw [hlength] at hk
    rw [calls_act_of_ne pool (by omega)]
    exact h.later k hk
  case lifecycle =>
    intro k
    by_cases hnk : n = k
    · subst hnk
      rw [calls_act_self, sensor?_act_self pool hn]
      exact ⟨q, hrun.append hrun', hstatus'⟩
    · rw [calls_act_of_ne pool hnk, sensor?_act_of_ne pool hnk]
      exact h.lifecycle k
  case balance =>
    intro handle
    have hbefore := h.balance handle
    have hbalance := hrun'.balance handle
    have hsensor : pool.sensors[n] = pool.sensor? n := by simp [sensor?, hn]
    have hle : (if (pool.sensor? n).any fun s => handle ∈ s.handles then 1 else 0) ≤
        pool.holders handle := by
      rw [← hsensor]
      exact List.boole_getElem_le_countP hn
    have hholders : (pool.act n x next).holders handle = pool.holders handle -
        (if (pool.sensor? n).any fun s => handle ∈ s.handles then 1 else 0) +
        if (next (x.value pool.machine)).any fun s => handle ∈ s.handles then 1 else 0 := by
      rw [← hsensor]
      exact List.countP_set hn
    rw [hstatus.count_handles, hstatus'.count_handles] at hbalance
    rw [entries_act, takenIn_append, givenIn_append, List.count_append, List.count_append, hholders]
    omega

theorem Sound.grow (h : Sound m pool) : Sound m pool.grow where
  history := h.history
  later := by
    intro n hn
    apply h.later n
    simp only [Pool.grow, List.length_append] at hn
    omega
  lifecycle := by
    intro n
    have hsensor : pool.grow.sensor? n = pool.sensor? n := by
      unfold sensor? Pool.grow
      by_cases hn : n < pool.sensors.length
      · rw [List.getElem?_append_left hn]
      · rw [List.getElem?_append_right (Nat.le_of_not_lt hn), List.getElem?_eq_none_iff.2
          (Nat.le_of_not_lt hn)]
        cases hk : n - pool.sensors.length <;> rfl
    rw [hsensor]
    exact h.lifecycle n
  balance := by
    intro handle
    have hholders : pool.grow.holders handle = pool.holders handle := by
      simp [holders, Pool.grow]
    rw [hholders]
    exact h.balance handle

/-- What is done with a sensor keeps the pool sound, if it follows the lifecycle. -/
theorem Sound.withSensor (h : Sound m pool) {n : Nat} {x : Sensor → Program α}
    {next : Sensor → Option Sensor}
    (hx : ∀ s p, s.InPhase p → (x s).Follows p fun _ q => Sensor.Status (next s) q) :
    Sound m (pool.withSensor n fun s => pool.act n (x s) fun _ => next s) := by
  unfold Pool.withSensor
  split
  · rename_i s hs
    have hn : n < pool.sensors.length := by
      by_contra hn
      have hnone : pool.sensors[n]? = none := List.getElem?_eq_none_iff.2 (Nat.le_of_not_lt hn)
      rw [sensor?, hnone] at hs
      cases hs
    apply h.act hn
    intro p _ hstatus
    rw [hs] at hstatus
    exact hx s p hstatus
  · exact h

/-- Every operation keeps a pool sound. -/
theorem Sound.step (h : Sound m pool) (operation : Operation) : Sound m (pool.step operation) := by
  cases operation with
  | build doNotDisturb spec =>
    have hn : pool.sensors.length < pool.grow.sensors.length := by simp [Pool.grow]
    apply h.grow.act hn
    intro p hrun _
    -- Nothing was asked for this sensor yet, so it starts afresh.
    have hnone : pool.grow.calls pool.sensors.length = [] := h.later _ (Nat.le_refl _)
    rw [hnone] at hrun
    cases hrun
    apply (Config.buildSensor_follows doNotDisturb spec).mono
    intro r q hr
    cases r <;> exact hr
  | read n =>
    apply h.withSensor
    intro s p hp
    exact (Sensor.read_follows hp).mono fun _ _ hq => hq ▸ hp
  | shutDown n => exact h.withSensor fun s p => Sensor.shutdown_follows
  | release n => exact h.withSensor fun s p => Sensor.release_follows
  | change c =>
    have hjournal := congrArg List.reverse (pool.machine.journal_change c)
    exact ⟨hjournal.trans h.history, h.later, h.lifecycle, h.balance⟩

theorem after_sound (m : Machine) (operations : List Operation) : Sound m (after m operations) := by
  have hrun : ∀ pool, Sound m pool → Sound m (operations.foldl step pool) := by
    induction operations with
    | nil => exact fun _ h => h
    | cons operation operations ih => exact fun pool h => ih _ (h.step operation)
  exact hrun _ (sound_nil m)

end Pool

/-! ## What a sensor asks for, and in which order -/

/-- The handles that are held after requests, and how they were used. -/
structure Orderly (es : List Entry) (held : List Handle) : Prop where
  /-- One session or disk is asked for at most. -/
  once : es.countP (·.request.opens) ≤ 1
  /-- What was taken is what was given back and what is held. -/
  balance : ∀ handle, (takenIn es).count handle = (givenIn es).count handle + held.count handle
  /-- At any time a handle is held once or not at all. -/
  within : ∀ before after, es = before ++ after → ∀ handle,
    (givenIn before).count handle ≤ (takenIn before).count handle ∧
      (takenIn before).count handle ≤ (givenIn before).count handle + 1
  /-- A handle is used and given back while it is held, -/
  uses : ∀ before e after, es = before ++ e :: after → ∀ handle, e.request.uses? = some handle →
    (takenIn before).count handle = (givenIn before).count handle + 1
  /-- and not used after it was given back. -/
  gone : ∀ before e after, es = before ++ e :: after → ∀ handle, e.request.gives? = some handle →
    ∀ e' ∈ after, e'.request.uses? ≠ some handle
  /-- A library is unloaded when nothing else is held. -/
  last : ∀ before e after name, es = before ++ e :: after → e.request = .unloadLibrary name →
    ∀ handle, handle ≠ .library name →
      (takenIn before).count handle = (givenIn before).count handle

namespace Phase

theorem nodup_handles (p : Phase) : p.handles.Nodup := by
  cases p <;> simp [handles]

/-- A driver that runs through its lifecycle uses its handles in order. -/
theorem Run.orderly {p : Phase} {es : List Entry} (h : Run .fresh es p) :
    Orderly es p.handles where
  once := by
    have hopens := h.opens_le
    simp only [early, Bool.toNat_true] at hopens
    omega
  balance := fun handle => h.balance handle
  within := by
    intro before after hes handle
    obtain ⟨q, hbefore, -⟩ := (hes ▸ h).split
    have hbalance : (takenIn before).count handle = _ + _ := hbefore.balance handle
    have hheld := q.nodup_handles.count (a := handle)
    split at hheld <;> omega
  uses := by
    intro before e after hes handle huses
    obtain ⟨q, hbefore, hrest⟩ := (hes ▸ h).split
    cases hrest with
    | cons hstep _ =>
      have hbalance : (takenIn before).count handle = _ + _ := hbefore.balance handle
      have hheld := q.nodup_handles.count (a := handle)
      rw [if_pos (hstep.uses huses)] at hheld
      omega
  gone := by
    intro before e after hes handle hgives
    obtain ⟨q, -, hrest⟩ := (hes ▸ h).split
    cases hrest with
    | cons hstep hafter =>
      obtain ⟨hearly, hmem⟩ := hstep.gives hgives
      exact hafter.unused hearly hmem
  last := by
    intro before e after name hes hunload handle hhandle
    obtain ⟨q, hbefore, hrest⟩ := (hes ▸ h).split
    cases hrest with
    | cons hstep _ =>
      have hbalance : (takenIn before).count handle = _ + _ := hbefore.balance handle
      have hheld : q.handles.count handle = 0 := by
        rw [hstep.last hunload]
        exact List.count_eq_zero.2 (List.mem_singleton.not.2 hhandle)
      omega

end Phase

namespace Pool

/-- Whatever is done with sensors on a machine, the handles that were taken are those that
    were given back and those that the sensors hold, and each sensor takes, uses and gives
    back its own in order. -/
theorem after_orderly (m : Machine) (operations : List Operation) :
    let pool := after m operations
    pool.machine.history = m.history ++ pool.entries ∧
      (∀ handle, (takenIn pool.entries).count handle =
        (givenIn pool.entries).count handle + pool.holders handle) ∧
      ∀ n, Orderly (pool.calls n) (pool.handles n) := by
  have hsound := after_sound m operations
  refine ⟨hsound.history, hsound.balance, fun n => ?_⟩
  obtain ⟨p, hrun, hstatus⟩ := hsound.lifecycle n
  have hhandles : p.handles = (after m operations).handles n := by
    unfold handles
    cases hs : (after m operations).sensor? n with
    | none =>
      rw [hs] at hstatus
      exact Phase.Idle.handles hstatus
    | some s =>
      rw [hs] at hstatus
      exact Sensor.InPhase.handles_eq hstatus
  exact hhandles ▸ hrun.orderly

end Pool

end Cooling
