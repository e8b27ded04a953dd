-- SUMMARY: A session that holds a fan hands it back: what it writes, in which order, on every way out.
import Cooling.Proofs.Prepare

/-!
# Handing a fan back

Once the fan of a session is found, the last write of the session is the one that
hands it back, whatever ends the session, a breakdown included. Everything before
it was written while the fan was held. There a ThinkPad fan gets no more commands
after one was refused, while a PWM channel may leave manual mode and be switched
back to it.
-/

namespace Cooling

open Program

/-! ## The commands of a hold -/

/-- What can be written while a fan is held: the path and the text of each command. -/
def Fan.commands (level : Level) : Fan → List (String × String)
  | thinkpad fan => [(fan.path, s!"watchdog {fan.watchdog.seconds}"), (fan.path, level.text),
      (fan.path, "level disengaged")]
  | pwm fan => (fan.modePath, PwmFan.manual) ::
      level.number?.toList.map fun n => (fan.path, toString n.toNat)

/-- A write makes one of the commands. -/
def Write.Makes (w : Write) (commands : List (String × String)) : Prop :=
  ∃ c ∈ commands, w.path = c.1 ∧ w.contents = c.2.toUTF8

/-- A request that writes makes one of the commands. -/
def Request.Makes (commands : List (String × String)) : Request → Prop
  | .writeFile path contents => ∃ c ∈ commands, path = c.1 ∧ contents = c.2.toUTF8
  | _ => True

variable {cs : List (String × String)}

theorem Entry.makes_of_write? {e : Entry} {w : Write} (he : e.request.Makes cs)
    (hw : e.write? = some w) : w.Makes cs := by
  obtain ⟨time, request, answer, interruptions⟩ := e
  cases request with
  | writeFile path contents => cases hw; exact he
  | _ => cases hw

/-- What a program writes that only makes commands. -/
theorem Program.Every.makes {x : Program α} (hx : x.Every (Request.Makes cs)) (m : Machine) :
    x.wp (fun _ _ es => ∀ w ∈ writesIn es, w.Makes cs) m := by
  intro w hw
  obtain ⟨e, he, hew⟩ := List.mem_filterMap.1 hw
  exact Entry.makes_of_write? (hx.trace m e he) hew

theorem ControlFile.write_makes {path text : String} (h : (path, text) ∈ cs) :
    (write path text).Every (Request.Makes cs) := by
  unfold write access
  split
  · exact every_pure _
  · exact every_request ⟨_, h, rfl, rfl⟩

namespace ThinkpadFan

theorem takeOver_makes (fan : ThinkpadFan) (level : Level) :
    fan.takeOver.run.Every (Request.Makes (Fan.commands level (.thinkpad fan))) :=
  Every.run_ofProgram (ControlFile.write_makes (.head _))

theorem setSpeed_makes (fan : ThinkpadFan) (level : Level) :
    (fan.setSpeed level).run.Every (Request.Makes (Fan.commands level (.thinkpad fan))) := by
  refine (Every.run_ofProgram (ControlFile.write_makes (.tail _ (.head _)))).run_bind fun _ => ?_
  exact (Every.run_lift (every_request trivial)).run_bind fun _ => every_run_pure _

theorem keep_makes (fan : ThinkpadFan) (level : Level) :
    (fan.keep level).run.Every (Request.Makes (Fan.commands level (.thinkpad fan))) := by
  unfold keep
  split
  · have hrun : (fan.path, "level disengaged") ∈ Fan.commands level (.thinkpad fan) :=
      .tail _ (.tail _ (.head _))
    refine (Every.run_ofProgram (ControlFile.write_makes hrun)).run_bind fun _ => ?_
    exact (Every.run_lift (every_request trivial)).run_bind fun _ => setSpeed_makes fan level
  · refine (Every.run_lift (every_request trivial)).run_bind fun now => ?_
    split
    · exact setSpeed_makes fan level
    · exact every_run_pure _

end ThinkpadFan

namespace PwmFan

theorem takeOver_makes (fan : PwmFan) (level : Level) :
    fan.takeOver.run.Every (Request.Makes (Fan.commands level (.pwm fan))) :=
  Every.run_ofProgram (ControlFile.write_makes (.head _))

theorem setSpeed_makes (fan : PwmFan) (level : Level) :
    (fan.setSpeed level).run.Every (Request.Makes (Fan.commands level (.pwm fan))) := by
  unfold setSpeed
  split
  · exact every_run_throw _
  · rename_i n hn
    have hmem : (fan.path, toString n.toNat) ∈ Fan.commands level (.pwm fan) := by
      simp [Fan.commands, hn]
    have hwrite : (Fan.writeLevel fan.path (toString n.toNat)).run.Every
        (Request.Makes (Fan.commands level (.pwm fan))) :=
      Every.run_ofProgram (ControlFile.write_makes hmem)
    refine Every.bind hwrite fun r => ?_
    cases r with
    | ok a => exact every_pure _
    | error f =>
      dsimp only
      split
      · refine (every_request trivial).bind fun _ => ?_
        refine (takeOver_makes fan level).bind fun r => ?_
        cases r with
        | ok a => exact hwrite
        | error f => exact every_pure _
      · exact every_pure _

end PwmFan

namespace Fan

theorem takeOver_makes (fan : Fan) (level : Level) :
    fan.takeOver.run.Every (Request.Makes (fan.commands level)) := by
  cases fan with
  | thinkpad fan => exact fan.takeOver_makes level
  | pwm fan => exact fan.takeOver_makes level

theorem setSpeed_makes (fan : Fan) (level : Level) :
    (fan.setSpeed level).run.Every (Request.Makes (fan.commands level)) := by
  cases fan with
  | thinkpad fan => exact (fan.setSpeed_makes level).run_map _
  | pwm fan => exact (fan.setSpeed_makes level).run_bind fun _ => every_run_pure _

theorem keep_makes (fan : Fan) (level : Level) :
    (fan.keep level).run.Every (Request.Makes (fan.commands level)) := by
  cases fan with
  | thinkpad fan => exact (fan.keep_makes level).run_map _
  | pwm fan => exact every_run_pure _

end Fan

/-! ## Writes that stop at a failure -/

/-- Of the writes of an operation only the last one can have failed, and none has if
    the operation succeeded. -/
structure Halts (r : Except ε α) (ws : List Write) : Prop where
  succeeded : ∀ a, r = .ok a → ∀ w ∈ ws, w.result = .ok ()
  front : ∀ w ∈ ws.dropLast, w.result = .ok ()

namespace Halts

variable {r : Except ε α} {ws vs : List Write}

theorem nil : Halts r [] := ⟨nofun, nofun⟩

theorem single {w : Write} (h : ∀ a, r = .ok a → w.result = .ok ()) : Halts r [w] :=
  ⟨fun a hr _ hw => List.mem_singleton.1 hw ▸ h a hr, nofun⟩

/-- What failed may have failed with another failure. -/
theorem error {e : ε} (h : Halts (.error e : Except ε α) ws) (e' : ε') :
    Halts (.error e' : Except ε' β) ws :=
  ⟨nofun, h.front⟩

theorem append (hvs : ∀ w ∈ vs, w.result = .ok ()) (hws : Halts r ws) : Halts r (vs ++ ws) := by
  constructor
  · intro a hr w hw
    rcases List.mem_append.1 hw with hw | hw
    · exact hvs w hw
    · exact hws.succeeded a hr w hw
  · intro w hw
    by_cases hnil : ws = []
    · rw [hnil, List.append_nil] at hw
      exact hvs w ((List.dropLast_sublist vs).subset hw)
    · rw [List.dropLast_append_of_ne_nil hnil] at hw
      rcases List.mem_append.1 hw with hw | hw
      · exact hvs w hw
      · exact hws.front w hw

end Halts

/-- What an attempt with one write comes to if it succeeds only when the write does. -/
theorem Program.WritesOnce.halts {x : Attempt α} {path text : String} {m : Machine}
    {Q : Except Failure α → Except OsError Unit → Prop} (hx : x.run.WritesOnce path text Q m)
    (hQ : ∀ a result, Q (.ok a) result → result = .ok ()) :
    x.run.wp (fun r _ es => Halts r (writesIn es)) m := by
  refine wp_mono hx fun r m' es => ?_
  rintro ⟨-, result, hwrites, hr⟩
  rw [hwrites]
  exact .single fun a ha => hQ a result (ha ▸ hr)

/-! ## A fan while it is held -/

namespace Fan

def isThinkpad : Fan → Bool
  | thinkpad _ => true
  | pwm _ => false

/-- The second fan is the first one after operations of a hold. They change nothing but
    when the watchdog was last fed. -/
inductive Held : Fan → Fan → Prop where
  | thinkpad (fan : ThinkpadFan) (ping : Option Instant) :
      Held (.thinkpad fan) (.thinkpad { fan with lastPing := ping })
  | pwm (fan : PwmFan) : Held (.pwm fan) (.pwm fan)

theorem Held.refl (fan : Fan) : Held fan fan := by
  cases fan with
  | thinkpad fan => exact .thinkpad fan fan.lastPing
  | pwm fan => exact .pwm fan

theorem Held.trans {fan₁ fan₂ fan₃ : Fan} (h : Held fan₁ fan₂) (h' : Held fan₂ fan₃) :
    Held fan₁ fan₃ := by
  cases h with
  | thinkpad fan ping => cases h' with | thinkpad fan' ping' => exact .thinkpad fan ping'
  | pwm fan => exact h'

theorem Held.commands_eq {fan fan' : Fan} (h : Held fan fan') (level : Level) :
    fan'.commands level = fan.commands level := by
  cases h <;> rfl

theorem Held.isThinkpad_eq {fan fan' : Fan} (h : Held fan fan') :
    fan'.isThinkpad = fan.isThinkpad := by
  cases h <;> rfl

/-- The paths of the fan name files, and it has yet to be restored. -/
def Ready : Fan → Prop
  | thinkpad fan => '\x00' ∉ fan.path.toList ∧ fan.restorePending = true
  | pwm fan => '\x00' ∉ fan.modePath.toList ∧ fan.restorePending = true

theorem Held.ready {fan fan' : Fan} (h : Held fan fan') (hready : fan.Ready) : fan'.Ready := by
  cases h <;> exact hready

/-- What an operation of a hold leaves: the same fan, and, if it is that of a ThinkPad,
    writes that stop at a failure. -/
structure Steered (fan : Fan) (r : Except Failure Fan) (ws : List Write) : Prop where
  held : ∀ fan', r = .ok fan' → fan.Held fan'
  halts : fan.isThinkpad = true → Halts r ws

theorem takeOver_halts {fan : Fan} (hready : fan.Ready) (m : Machine) :
    fan.takeOver.run.wp (fun r _ es => fan.isThinkpad = true → Halts r (writesIn es)) m := by
  cases fan with
  | thinkpad fan =>
    refine wp_mono ((fan.takeOver_once hready.1 m).halts ?_) fun _ _ _ h _ => h
    intro a result hr
    cases result with
    | ok => rfl
    | error e => cases hr
  | pwm fan => exact nofun

theorem setSpeed_steered {fan : Fan} (hready : fan.Ready) (level : Level) (m : Machine) :
    (fan.setSpeed level).run.wp (fun r _ es => fan.Steered r (writesIn es)) m := by
  cases fan with
  | thinkpad fan =>
    change (ExceptT.run (thinkpad <$> fan.setSpeed level)).wp _ m
    rw [wp_run_map]
    refine wp_mono (ThinkpadFan.setSpeed_once hready.1 level m) ?_
    rintro r m' es ⟨-, result, hwrites, rfl⟩
    rw [hwrites]
    cases result with
    | ok a => exact ⟨by rintro fan' ⟨⟩; exact .thinkpad fan _, fun _ => .single fun _ _ => rfl⟩
    | error e => exact ⟨nofun, fun _ => .single nofun⟩
  | pwm fan =>
    change (ExceptT.run (fan.setSpeed level >>= fun _ => pure (pwm fan))).wp _ m
    rw [wp_run_bind]
    refine wp_of_forall fun r m' es => ?_
    cases r with
    | ok a => exact ⟨by rintro fan' ⟨⟩; exact .pwm fan, nofun⟩
    | error f => exact ⟨nofun, nofun⟩

theorem keep_steered {fan : Fan} (hready : fan.Ready) (level : Level) (m : Machine) :
    (fan.keep level).run.wp (fun r _ es => fan.Steered r (writesIn es)) m := by
  cases fan with
  | thinkpad fan =>
    change (ExceptT.run (thinkpad <$> fan.keep level)).wp _ m
    rw [wp_run_map]
    by_cases hdepulse : fan.depulse = .zero
    · refine wp_mono (ThinkpadFan.keep_steady hready.1 hdepulse level m) ?_
      rintro r m' es ⟨-, h⟩
      split at h
      · obtain ⟨result, hwrites, rfl⟩ := h
        rw [hwrites]
        cases result with
        | ok a => exact ⟨by rintro fan' ⟨⟩; exact .thinkpad fan _, fun _ => .single fun _ _ => rfl⟩
        | error e => exact ⟨nofun, fun _ => .single nofun⟩
      · obtain ⟨hwrites, rfl⟩ := h
        rw [hwrites]
        exact ⟨by rintro fan' ⟨⟩; exact .refl _, fun _ => .nil⟩
    · refine wp_mono (ThinkpadFan.keep_depulsing hready.1 hdepulse level m) ?_
      rintro r m' es (⟨e, hwrites, -, rfl⟩ | ⟨result, hwrites, -, rfl⟩)
      · rw [hwrites]
        exact ⟨nofun, fun _ => .single nofun⟩
      · rw [hwrites]
        have hfirst : ∀ w ∈ [Write.ofText m.clock fan.path "level disengaged" (.ok ())],
            w.result = .ok () := by
          intro w hw
          rw [List.mem_singleton.1 hw]
          rfl
        cases result with
        | ok a =>
          exact ⟨by rintro fan' ⟨⟩; exact .thinkpad fan _,
            fun _ => .append hfirst (.single fun _ _ => rfl)⟩
        | error e => exact ⟨nofun, fun _ => .append hfirst (.single nofun)⟩
  | pwm fan => exact ⟨by rintro fan' ⟨⟩; exact .pwm fan, nofun⟩

end Fan

/-! ## Holding -/

namespace Session

theorem startHolding_makes (fan : Fan) (level : Level) :
    (startHolding fan level).run.Every (Request.Makes (fan.commands level)) := by
  refine (fan.takeOver_makes level).run_bind fun _ => ?_
  refine (fan.setSpeed_makes level).run_bind fun _ => ?_
  exact (Every.run_lift (every_request trivial)).run_bind fun _ => every_run_pure _

theorem startHolding_steered {fan : Fan} (hready : fan.Ready) (level : Level) (m : Machine) :
    (startHolding fan level).run.wp (fun r _ es => fan.Steered r (writesIn es)) m := by
  unfold startHolding
  rw [wp_run_bind]
  refine wp_mono (Fan.takeOver_halts hready m) fun r m' es htaken => ?_
  cases r with
  | error f => exact ⟨nofun, fun h => (htaken h).error f⟩
  | ok a =>
    dsimp only
    rw [wp_run_bind]
    refine wp_mono (Fan.setSpeed_steered hready level m') fun r m'' fs hset => ?_
    cases r with
    | error f =>
      refine ⟨nofun, fun h => ?_⟩
      rw [writesIn_append]
      exact .append ((htaken h).succeeded a rfl) (hset.halts h)
    | ok fan' =>
      dsimp only
      rw [wp_run_bind, wp_run_lift, Program.log, wp_request, wp_run_pure]
      simp only [writesIn_append, writesIn_log, List.append_nil]
      refine ⟨fun _ h => by cases h; exact hset.held fan' rfl, fun h => ?_⟩
      have hset' := hset.halts h
      exact .append ((htaken h).succeeded a rfl)
        ⟨fun _ _ => hset'.succeeded fan' rfl, hset'.front⟩

/-- A nap is no longer than a poll interval. -/
theorem nap?_le {pollInterval nap : Duration} {deadline? : Option Instant} {now : Instant}
    (h : nap? pollInterval deadline? now = some nap) : nap.nanos ≤ pollInterval.nanos := by
  unfold nap? at h
  split at h
  · cases h
    exact Nat.le_refl _
  · split at h
    · cases h
    · cases h
      rw [Duration.nanos_min]
      exact Nat.min_le_left _ _

/-- How a hold went: it breaks down, fails, or ends well. -/
def verdict (r : Except Breakdown (Fan × Except Failure Unit)) : Except Breakdown Unit :=
  r.bind fun (_, held) => held.mapError (.failure none)

/-- What a hold leaves: the same fan, and writes that make commands of the hold and, if
    the fan is that of a ThinkPad, stop at a failure. -/
structure Kept (fan : Fan) (level : Level) (r : Except Breakdown (Fan × Except Failure Unit))
    (ws : List Write) : Prop where
  held : ∀ fan' result, r = .ok (fan', result) → fan.Held fan'
  makes : ∀ w ∈ ws, w.Makes (fan.commands level)
  halts : fan.isThinkpad = true → Halts (verdict r) ws

theorem Kept.ended {fan : Fan} {level : Level} {ws : List Write} (result : Except Failure Unit)
    (hmakes : ∀ w ∈ ws, w.Makes (fan.commands level))
    (hhalts : fan.isThinkpad = true → Halts result ws) : Kept fan level (.ok (fan, result)) ws := by
  refine ⟨fun _ _ h => by cases h; exact .refl fan, hmakes, fun h => ?_⟩
  cases result with
  | ok a => exact ⟨fun _ _ => (hhalts h).succeeded a rfl, (hhalts h).front⟩
  | error f => exact (hhalts h).error _

theorem Kept.nil (fan : Fan) (level : Level) (result : Except Failure Unit) :
    Kept fan level (.ok (fan, result)) [] :=
  .ended result nofun fun _ => .nil

theorem Kept.broken (fan : Fan) (level : Level) (b : Breakdown) : Kept fan level (.error b) [] :=
  ⟨nofun, nofun, fun _ => .nil⟩

/-- What is left after operations of a hold that succeeded, and more of them. -/
theorem Kept.after {fan fan' : Fan} {level : Level}
    {r : Except Breakdown (Fan × Except Failure Unit)} {vs ws : List Write}
    (hkept : Kept fan' level r ws) (hheld : fan.Held fan')
    (hmakes : ∀ w ∈ vs, w.Makes (fan.commands level))
    (hvs : fan.isThinkpad = true → ∀ w ∈ vs, w.result = .ok ()) :
    Kept fan level r (vs ++ ws) := by
  refine ⟨fun _ _ h => hheld.trans (hkept.held _ _ h), fun w hw => ?_, fun h => ?_⟩
  · rcases List.mem_append.1 hw with hw | hw
    · exact hmakes w hw
    · exact hheld.commands_eq level ▸ hkept.makes w hw
  · exact .append (hvs h) (hkept.halts (hheld.isThinkpad_eq ▸ h))

theorem keepHolding_kept (level : Level) (pollInterval : Duration) (deadline? : Option Instant)
    (naps : Nat) {fan : Fan} (hready : fan.Ready) (m : Machine) :
    (keepHolding level pollInterval deadline? naps fan).run.wp
      (fun r _ es => Kept fan level r (writesIn es)) m := by
  induction naps generalizing fan m with
  | zero => exact .nil fan level _
  | succ naps ih =>
    unfold keepHolding
    rw [wp_run_bind, wp_run_lift, Program.now, wp_request]
    dsimp only
    split
    · exact .nil fan level _
    · rename_i nap hnap
      have hsleep := (asks_sleepWhileRunning nap).writesIn_eq_nil (by decide) (m.serve .now).2
      rw [wp_run_bind]
      refine wp_mono (Q := fun _ _ es => writesIn es = []) hsleep fun awake m₁ es hes => ?_
      have hquiet : writesIn ([m.entry .now] ++ es) = [] := by rw [writesIn_append, hes]; rfl
      cases awake with
      | error b =>
        rw [hquiet]
        exact .broken fan level b
      | ok awake =>
        cases awake with
        | false =>
          simp only [Bool.false_eq_true, if_false, wp_run_pure, List.append_nil, hquiet,
            ← List.append_assoc]
          exact .nil fan level _
        | true =>
          dsimp only
          rw [if_pos rfl, wp_run_bind, wp_run_lift]
          have hkeep := wp_and (Fan.keep_steered hready level m₁)
            ((fan.keep_makes level).makes m₁)
          refine wp_mono hkeep fun r m₂ fs ⟨hsteered, hmakes⟩ => ?_
          cases r with
          | error f =>
            simp only [wp_run_pure, List.append_nil, ← List.append_assoc, writesIn_append _ fs,
              hquiet, List.nil_append]
            exact .ended _ hmakes fun h => (hsteered.halts h).error f
          | ok fan' =>
            have hheld := hsteered.held fan' rfl
            refine wp_mono (ih (hheld.ready hready) m₂) fun r m₃ gs hgs => ?_
            simp only [← List.append_assoc, writesIn_append _ gs, writesIn_append _ fs, hquiet,
              List.nil_append]
            exact hgs.after hheld hmakes fun h => (hsteered.halts h).succeeded fan' rfl

/-- While a fan is held, only commands of the hold are written, and a ThinkPad fan gets
    none after one failed. -/
theorem hold_kept (naps : Nat) {fan : Fan} (hready : fan.Ready) (level : Level)
    (pollInterval : Duration) (deadline? : Option Instant) (m : Machine) :
    (hold naps fan level pollInterval deadline?).run.wp
      (fun r _ es => Kept fan level r (writesIn es)) m := by
  unfold hold
  rw [wp_run_bind, wp_run_lift]
  have hstart := wp_and (startHolding_steered hready level m)
    ((startHolding_makes fan level).makes m)
  refine wp_mono hstart fun r m' es ⟨hsteered, hmakes⟩ => ?_
  cases r with
  | error f =>
    simp only [wp_run_pure, List.append_nil]
    exact .ended _ hmakes fun h => (hsteered.halts h).error f
  | ok fan' =>
    have hheld := hsteered.held fan' rfl
    refine wp_mono (keepHolding_kept level pollInterval deadline? naps (hheld.ready hready) m') ?_
    intro r m'' fs hkept
    rw [writesIn_append]
    exact hkept.after hheld hmakes fun h => (hsteered.halts h).succeeded fan' rfl

end Session

/-! ## Handing back -/

namespace Fan

/-- The file that takes the level or mode found at the start. -/
def restoreTarget : Fan → String
  | thinkpad fan => fan.path
  | pwm fan => fan.modePath

/-- What is written to hand the fan back. -/
def restoreText : Fan → String
  | thinkpad fan => s!"level {fan.initialLevel}"
  | pwm fan => fan.initialMode

def notRestored : Fan → OsError → Failure
  | thinkpad fan => ThinkpadFan.notRestored fan.path fan.initialLevel
  | pwm fan => PwmFan.notRestored fan.initialMode fan.modePath

theorem restore_once {fan : Fan} (hready : fan.Ready) (m : Machine) :
    fan.restore.run.WritesOnce fan.restoreTarget fan.restoreText
      (fun r result => r = result.mapError fan.notRestored) m := by
  cases fan with
  | thinkpad fan => exact fan.restore_once hready.1 hready.2 m
  | pwm fan =>
    change (PwmFan.restore fan).run.WritesOnce fan.modePath fan.initialMode _ m
    unfold PwmFan.restore
    rw [if_pos hready.2]
    exact Attempt.ofProgram_write_once hready.1 _ _ m

/-- A fan whose restoring was tried is let go without another write. -/
theorem release_restored (fan : Fan) : fan.restored.release = pure () := by
  cases fan <;> rfl

theorem release_once {fan : Fan} (hready : fan.Ready) (m : Machine) :
    fan.release.WritesOnce fan.restoreTarget fan.restoreText (fun _ _ => True) m := by
  have hrelease : fan.release = fan.restore.orLog Failure.message := by cases fan <;> rfl
  rw [hrelease]
  unfold WritesOnce
  rw [Attempt.wp_orLog]
  refine wp_mono (restore_once hready m) fun r m' es ⟨htiming, result, hwrites, _⟩ => ?_
  cases r with
  | ok a => exact ⟨htiming, result, hwrites, trivial⟩
  | error f =>
    refine ⟨htiming.trans (m'.sameTiming_log _ _), result, ?_, trivial⟩
    rw [writesIn_append, hwrites]
    rfl

theorem Held.restoreTarget_eq {fan fan' : Fan} (h : Held fan fan') :
    fan'.restoreTarget = fan.restoreTarget := by
  cases h <;> rfl

theorem Held.restoreText_eq {fan fan' : Fan} (h : Held fan fan') :
    fan'.restoreText = fan.restoreText := by
  cases h <;> rfl

theorem Held.notRestored_eq {fan fan' : Fan} (h : Held fan fan') :
    fan'.notRestored = fan.notRestored := by
  cases h <;> rfl

end Fan

theorem Config.Describes.ready {config : Config} {fan : Fan} (h : config.Describes fan) :
    fan.Ready := by
  cases fan with
  | thinkpad fan =>
    obtain ⟨-, -, hpath, -, -, -, -, hpending⟩ := h
    exact ⟨hpath, hpending⟩
  | pwm fan => exact ⟨h.2.2.1, h.2.2.2⟩

namespace Session

theorem handBack_once {fan : Fan} (hready : fan.Ready) (m : Machine) :
    (handBack fan).WritesOnce fan.restoreTarget fan.restoreText
      (fun r result => r = result.mapError fan.notRestored) m := by
  unfold WritesOnce handBack
  rw [wp_bind]
  refine wp_mono (Fan.restore_once hready m) fun r m' es ⟨htiming, result, hwrites, hr⟩ => ?_
  have hlog : ∀ severity message, (m.SameTiming (m'.serve (.log severity message)).2 ∧
      ∃ result, writesIn (es ++ [m'.entry (.log severity message)]) =
        [.ofText m.clock fan.restoreTarget fan.restoreText result] ∧
          r = result.mapError fan.notRestored) := fun severity message => by
    refine ⟨htiming.trans (m'.sameTiming_log _ _), result, ?_, hr⟩
    rw [writesIn_append, hwrites, writesIn_log, List.append_nil]
  cases r with
  | ok a => exact hlog _ _
  | error f => exact hlog _ _

/-- A fan is handed back and let go after a hold that did not break down. -/
theorem handBack_release {fan fan' : Fan} (hready : fan.Ready) (hheld : fan.Held fan')
    (held : Except Failure Unit) (m : Machine) :
    (do
      let restored ← handBack fan'
      fan'.restored.release
      return outcome held restored : Program (Except Breakdown Unit)).WritesOnce
      fan.restoreTarget fan.restoreText
      (fun r result => r = (held.mapError (.failure none)).bind fun _ =>
        (result.mapError fan.notRestored).mapError (.failure none)) m := by
  unfold WritesOnce
  simp only [Fan.release_restored, pure_bind]
  rw [wp_bind]
  refine wp_mono (handBack_once (hheld.ready hready) m) ?_
  rintro r m' es ⟨htiming, result, hwrites, rfl⟩
  rw [hheld.restoreTarget_eq, hheld.restoreText_eq] at hwrites
  simp only [pure_eq_done, wp_done, List.append_nil]
  refine ⟨htiming, result, hwrites, ?_⟩
  rw [hheld.notRestored_eq]
  cases held <;> cases result <;> rfl

/-- A hold and the attempt to hand the fan back, which is made whatever came of the hold. -/
theorem holdAndHandBack_spec (patience : Nat) {fan : Fan} (hready : fan.Ready) (level : Level)
    (pollInterval : Duration) (deadline? : Option Instant) (m : Machine) :
    let kept := (hold patience fan level pollInterval deadline?).run
    (holdAndHandBack patience fan level pollInterval deadline?).run.wp (fun r _ es =>
      ∃ restored,
        writesIn es = writesIn (kept.trace m) ++
          [.ofText (kept.after m).clock fan.restoreTarget fan.restoreText restored] ∧
        r = (verdict (kept.value m)).bind fun _ =>
          (restored.mapError fan.notRestored).mapError (.failure none)) m := by
  intro kept
  unfold holdAndHandBack
  rw [ExceptT.run_mk, wp_bind]
  have hhold : kept.wp _ m :=
    wp_and wp_self (hold_kept patience hready level pollInterval deadline? m)
  refine wp_mono hhold fun r m' es ⟨⟨hrun, htrace⟩, hkept⟩ => ?_
  rw [value, after, hrun, htrace]
  cases r with
  | error b =>
    dsimp only
    rw [wp_bind]
    refine wp_mono (Fan.release_once hready m') ?_
    rintro _ m'' fs ⟨-, restored, hwrites, -⟩
    refine ⟨restored, ?_, rfl⟩
    rw [pure_eq_done, trace_done, List.append_nil, writesIn_append, hwrites]
  | ok r =>
    obtain ⟨fan', held⟩ := r
    have hheld : fan.Held fan' := hkept.held fan' held rfl
    cases held with
    | ok a =>
      refine wp_mono (handBack_release hready hheld (.ok a) m') ?_
      rintro _ m'' fs ⟨-, restored, hwrites, rfl⟩
      exact ⟨restored, by rw [writesIn_append, hwrites], rfl⟩
    | error f =>
      dsimp only
      rw [wp_bind, Program.log, wp_request]
      refine wp_mono (handBack_release hready hheld (.error f) _) ?_
      rintro _ m'' fs ⟨-, restored, hwrites, rfl⟩
      refine ⟨restored, ?_, rfl⟩
      rw [writesIn_append, writesIn_append, writesIn_log, hwrites, List.nil_append]
      rfl

/-- The deadline is the time after the seconds. If the clock cannot show it, the fan is
    handed back right away. -/
theorem deadlineAfter_spec {fan : Fan} (hready : fan.Ready) (seconds? : Option Nat) (m : Machine) :
    (deadlineAfter fan seconds?).run.wp (fun r m' es => m.SameTiming m' ∧
      match r with
      | .ok deadline? => writesIn es = [] ∧
          ∀ s, seconds? = some s → deadline? = m.clock.after? (.ofSeconds s) ∧ deadline?.isSome
      | .error breakdown => ∃ s, seconds? = some s ∧ m.clock.after? (.ofSeconds s) = none ∧
          breakdown = tooFar s ∧ ∃ time restored,
            writesIn es = [.ofText time fan.restoreTarget fan.restoreText restored]) m := by
  cases seconds? with
  | none => exact ⟨.refl m, rfl, nofun⟩
  | some s =>
    have htiming : m.SameTiming (m.serve .now).2 := m.sameTiming_now
    unfold deadlineAfter
    rw [wp_run_bind, wp_run_lift, Program.now, wp_request]
    have hnow : (m.serve .now).1 = m.clock := rfl
    rw [hnow]
    dsimp only
    split
    · rename_i deadline hdeadline
      refine ⟨htiming, rfl, ?_⟩
      rintro _ ⟨⟩
      exact ⟨hdeadline.symm, rfl⟩
    · rename_i hdeadline
      rw [wp_run_bind, wp_run_lift]
      refine wp_mono (Fan.release_once hready (m.serve .now).2) ?_
      rintro _ m' es ⟨htiming', restored, hwrites, -⟩
      refine ⟨htiming.trans htiming', s, rfl, hdeadline, rfl, m.clock, restored, ?_⟩
      rw [writesIn_append, writesIn_append, hwrites]
      rfl

/-- A session with a fan writes nothing unless it finds the fan. If it does, its last
    write is the one attempt to hand the fan back, after what was written while the fan
    was held. The session succeeds if the clock can show the deadline, the hold succeeds
    and the fan is handed back, and the failure of the hold comes before that of handing
    it back. -/
theorem runFan_hands_back (patience : Nat) (path : String) (level : Level) (seconds? : Option Nat)
    (m : Machine) :
    (runFan patience path level seconds?).run.wp (fun result _ es =>
      match (prepareFan path).run.run m with
      | (.error breakdown, _) => result = .error breakdown ∧ writesIn es = []
      | (.ok (config, fan), m₁) => config.Describes fan ∧
        ∃ held time restored,
          writesIn es =
            held ++ [.ofText time fan.restoreTarget fan.restoreText restored] ∧
          (∀ w ∈ held, w.Makes (fan.commands level)) ∧
          (fan.isThinkpad = true → ∀ w ∈ held.dropLast, w.result = .ok ()) ∧
          match (deadlineAfter fan seconds?).run.run m₁ with
          | (.error breakdown, _) => result = .error breakdown ∧ held = [] ∧
            ∃ s, seconds? = some s ∧ m₁.clock.after? (.ofSeconds s) = none ∧ breakdown = tooFar s
          | (.ok deadline?, m₂) =>
            (∀ s, seconds? = some s → deadline? = m₁.clock.after? (.ofSeconds s) ∧
              deadline?.isSome) ∧
            let kept := (hold patience fan level config.pollInterval deadline?).run
            held = writesIn (kept.trace m₂) ∧
            (result = .ok () ↔ verdict (kept.value m₂) = .ok () ∧ restored = .ok ()) ∧
            ∀ b, verdict (kept.value m₂) = .error b → result = .error b) m := by
  rw [runFan_eq, wp_run_bind]
  refine wp_mono (wp_and wp_self (prepareFan_spec path m)) ?_
  rintro r m₁ es ⟨⟨hrun, -⟩, -, hnone, hdescribes⟩
  rw [hrun]
  cases r with
  | error breakdown => exact ⟨rfl, hnone⟩
  | ok prepared =>
    obtain ⟨config, fan⟩ := prepared
    have hfan := hdescribes config fan rfl
    have hready := hfan.ready
    dsimp only
    rw [wp_run_bind]
    refine wp_mono (wp_and wp_self (deadlineAfter_spec hready seconds? m₁)) ?_
    rintro r m₂ fs ⟨⟨hdeadline, -⟩, -, hspec⟩
    rw [hdeadline]
    cases r with
    | error breakdown =>
      obtain ⟨s, hs, hfar, hbreakdown, time, restored, hwrites⟩ := hspec
      refine ⟨hfan, [], time, restored, ?_, nofun, nofun, rfl, rfl, s, hs, hfar, hbreakdown⟩
      rw [writesIn_append, hnone, hwrites, List.nil_append]
    | ok deadline? =>
      obtain ⟨hnone', hfits⟩ := hspec
      have hkept := hold_kept patience hready level config.pollInterval deadline? m₂
      have hback := holdAndHandBack_spec patience hready level config.pollInterval deadline? m₂
      refine wp_mono hback ?_
      rintro r m₃ gs ⟨restored, hwrites, rfl⟩
      let kept := (hold patience fan level config.pollInterval deadline?).run
      refine ⟨hfan, writesIn (kept.trace m₂), (kept.after m₂).clock, restored, ?_, hkept.makes,
        fun h => (hkept.halts h).front, hfits, rfl, ?_, ?_⟩
      · rw [writesIn_append, hnone, writesIn_append, hnone', hwrites, List.nil_append,
          List.nil_append]
      · cases verdict (kept.value m₂) <;> cases restored <;> simp [Except.bind]
      · intro b hb
        rw [hb]
        rfl

end Session

end Cooling
