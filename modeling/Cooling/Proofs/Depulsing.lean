-- SUMMARY: What keeping a ThinkPad fan at its level asks of the host, and that no fan is left to run free in silence.
import Cooling.Proofs.Steering

/-!
# Depulsing

Depulsing lets the fan run free for a while, and then applies its level again. Both steps
are writes that can fail, with a sleep between them. If the first one fails nothing else is
done, and the fan still knows when its watchdog was last fed. If the second one fails the
fan runs free, but whoever asked for the level is told.

Nothing else lets a fan run free, unless that is the level it is set to or was found at. So
whenever the last write that succeeded let the fan run free, the call that made this write
has reported a failure.
-/

namespace Cooling

open Program

/-! ## Requests -/

theorem ControlFile.write_requests {path : String} (hpath : '\x00' ∉ path.toList)
    (text : String) (m : Machine) :
    (write path text).wp
      (fun _ _ es => es.map Entry.request = [.writeFile path text.toUTF8]) m := by
  unfold write access
  rw [if_neg hpath]
  rfl

theorem Fan.writeLevel_requests {path : String} (hpath : '\x00' ∉ path.toList)
    (text : String) (m : Machine) :
    (writeLevel path text).run.wp
      (fun _ _ es => es.map Entry.request = [.writeFile path text.toUTF8]) m :=
  (Attempt.wp_ofProgram _ _).2 (ControlFile.write_requests hpath text m)

namespace ThinkpadFan

variable {fan : ThinkpadFan} {level : Level}

/-! ## Setting a level -/

/-- What setting a level asks of the host. The time is asked for once the level is written. -/
def settingRequests (fan : ThinkpadFan) (level : Level) (written : Bool) : List Request :=
  .writeFile fan.path level.text.toUTF8 :: if written then [.now] else []

/-- What setting a level comes to, by how its write ends. -/
structure Applies (fan : ThinkpadFan) (level : Level) (m : Machine)
    (result : Except OsError Unit) (r : Except Failure ThinkpadFan) (m' : Machine)
    (es : List Entry) : Prop where
  timing : m.SameTiming m'
  writes : writesIn es = [.ofText m.clock fan.path level.text result]
  requests : es.map Entry.request = fan.settingRequests level result.isOk
  done : result = .ok () → r = .ok { fan with lastPing := some m.clock } ∧
    m'.files.get? fan.path = some level.text.toUTF8
  refused : ∀ e, result = .error e → r = .error (Fan.levelRefused fan.path level.text e)

theorem setSpeed_requests (hpath : '\x00' ∉ fan.path.toList) (level : Level) (m : Machine) :
    (fan.setSpeed level).run.wp
      (fun r _ es => es.map Entry.request = fan.settingRequests level r.isOk) m := by
  unfold setSpeed
  rw [wp_run_bind]
  refine wp_mono (Fan.writeLevel_requests hpath level.text m) fun r m' es hrequests => ?_
  cases r with
  | ok a =>
    change (es ++ [m'.entry .now]).map Entry.request = _
    rw [List.map_append, hrequests]
    rfl
  | error f => exact hrequests

theorem setSpeed_applies (hpath : '\x00' ∉ fan.path.toList) (level : Level) (m : Machine) :
    (fan.setSpeed level).run.wp (fun r m' es =>
      ∃ result, fan.Applies level m result r m' es) m := by
  have honce := setSpeed_once hpath level m
  have hleaves : (fan.setSpeed level).run.wp (fun _ m' es =>
      writesIn es = [.ofText m.clock fan.path level.text (.ok ())] →
        m'.files.get? fan.path = some level.text.toUTF8) m := honce.leaves
  refine wp_mono (wp_and honce (wp_and (setSpeed_requests hpath level m) hleaves)) ?_
  rintro r m' es ⟨⟨htiming, result, hwrites, rfl⟩, hrequests, hholds⟩
  cases result with
  | ok a => exact ⟨.ok a, htiming, hwrites, hrequests, fun _ => ⟨rfl, hholds hwrites⟩, nofun⟩
  | error e =>
    refine ⟨.error e, htiming, hwrites, hrequests, nofun, ?_⟩
    rintro _ ⟨⟩
    rfl

/-! ## Keeping a level -/

/-- What keeping a level with depulsing comes to: how the write ended that lets the fan run
    free, and how the one did that applies the level again, if that was tried. -/
structure Depulses (fan : ThinkpadFan) (level : Level) (m : Machine)
    (freed : Except OsError Unit) (applied? : Option (Except OsError Unit))
    (r : Fan × Except Failure Unit) (m' : Machine) (es : List Entry) : Prop where
  writes : writesIn es = .ofText m.clock fan.path "level disengaged" freed ::
    (applied?.map (.ofText m'.clock fan.path level.text)).toList
  applies : applied?.isSome ↔ freed = .ok ()
  /-- There is one sleep, between the two writes. -/
  requests : es.map Entry.request = .writeFile fan.path "level disengaged".toUTF8 ::
    match applied? with
    | none => []
    | some applied => .sleep fan.depulse :: fan.settingRequests level applied.isOk
  elapses : m.Elapses m' (if applied?.isSome then fan.depulse.nanos else 0)
  ok_iff : r.2 = .ok () ↔ freed = .ok () ∧ applied? = some (.ok ())
  done : r.2 = .ok () → r.1 = .thinkpad { fan with lastPing := some m'.clock } ∧
    m'.files.get? fan.path = some level.text.toUTF8
  notFreed : ∀ e, freed = .error e →
    r = (.thinkpad fan, .error (Fan.levelRefused fan.path "level disengaged" e))
  notApplied : ∀ e, applied? = some (.error e) →
    r = (.thinkpad fan, .error (Fan.levelRefused fan.path level.text e))

theorem keep_depulses (hpath : '\x00' ∉ fan.path.toList) (hdepulse : fan.depulse ≠ .zero)
    (level : Level) (m : Machine) :
    ((Fan.thinkpad fan).perform (.keep level)).wp (fun r m' es =>
      ∃ freed applied?, fan.Depulses level m freed applied? r m' es) m := by
  rw [wp_perform_keep, wp_keep_depulsing hdepulse]
  have hfree := wp_and (Attempt.ofProgram_write_once hpath "level disengaged"
    (Fan.levelRefused fan.path "level disengaged") m)
    (Fan.writeLevel_requests hpath "level disengaged" m)
  refine wp_mono hfree ?_
  rintro r m₁ es ⟨⟨htiming, freed, hwrites, rfl⟩, hrequests⟩
  cases freed with
  | error e =>
    refine ⟨.error e, none, hwrites, iff_of_false nofun nofun, hrequests, htiming.elapses,
      iff_of_false nofun nofun, nofun, ?_, nofun⟩
    rintro _ ⟨⟩
    rfl
  | ok a =>
    refine wp_mono (setSpeed_applies hpath level (m₁.serve (.sleep fan.depulse)).2) ?_
    rintro r m₂ fs ⟨applied, h⟩
    have hclock : m₂.clock = (m₁.serve (.sleep fan.depulse)).2.clock := h.timing.clock
    refine ⟨.ok (), some applied, ?_, iff_of_true rfl rfl, ?_,
      (htiming.elapses_sleep _).trans_sameTiming h.timing, ?_, ?_, nofun, ?_⟩
    · have hslept : writesIn (m₁.entry (.sleep fan.depulse) :: fs) = writesIn fs := rfl
      rw [writesIn_append, hwrites, hslept, h.writes, hclock]
      rfl
    · rw [List.map_append, hrequests, List.map_cons, h.requests]
      rfl
    · cases applied with
      | ok a => rw [(h.done rfl).1]; exact iff_of_true rfl ⟨rfl, rfl⟩
      | error e => rw [h.refused e rfl]; exact iff_of_false nofun nofun
    · cases applied with
      | ok a =>
        obtain ⟨hr, hfile⟩ := h.done rfl
        rw [hr, hclock]
        exact fun _ => ⟨rfl, hfile⟩
      | error e => rw [h.refused e rfl]; exact nofun
    · rintro e ⟨⟩
      rw [h.refused e rfl]
      rfl

/-- What keeping a level without depulsing comes to: how the write ended that feeds the
    watchdog, if that was due. -/
structure Feeds (fan : ThinkpadFan) (level : Level) (m : Machine)
    (result? : Option (Except OsError Unit)) (r : Fan × Except Failure Unit) (m' : Machine)
    (es : List Entry) : Prop where
  due : result?.isSome ↔ fan.watchdogDue m.clock = true
  writes : writesIn es = (result?.map (.ofText m.clock fan.path level.text)).toList
  requests : es.map Entry.request = .now ::
    match result? with
    | none => []
    | some result => fan.settingRequests level result.isOk
  timing : m.SameTiming m'
  /-- If the watchdog is not due, nothing is changed, and the machine has only been asked
      for the time. -/
  idle : result? = none → r = (.thinkpad fan, .ok ()) ∧ m' = { m with journal := m'.journal }
  done : result? = some (.ok ()) →
    r = (.thinkpad { fan with lastPing := some m.clock }, .ok ()) ∧
      m'.files.get? fan.path = some level.text.toUTF8
  refused : ∀ e, result? = some (.error e) →
    r = (.thinkpad fan, .error (Fan.levelRefused fan.path level.text e))

theorem keep_feeds_if_due (hpath : '\x00' ∉ fan.path.toList) (hdepulse : fan.depulse = .zero)
    (level : Level) (m : Machine) :
    ((Fan.thinkpad fan).perform (.keep level)).wp (fun r m' es =>
      ∃ result?, fan.Feeds level m result? r m' es) m := by
  rw [wp_perform_keep, wp_keep_steady hdepulse]
  have hnow : m.SameTiming (m.serve .now).2 := m.sameTiming_now
  split
  · rename_i hdue
    refine wp_mono (setSpeed_applies hpath level (m.serve .now).2) ?_
    rintro r m' es ⟨result, h⟩
    refine ⟨some result, iff_of_true rfl hdue, h.writes, ?_, hnow.trans h.timing, nofun, ?_, ?_⟩
    · rw [List.map_cons, h.requests]
      rfl
    · rintro ⟨⟩
      obtain ⟨hr, hfile⟩ := h.done rfl
      rw [hr]
      exact ⟨rfl, hfile⟩
    · rintro e ⟨⟩
      rw [h.refused e rfl]
      rfl
  · rename_i hnot
    exact ⟨none, iff_of_false nofun hnot, rfl, rfl, hnow, fun _ => ⟨rfl, rfl⟩, nofun, nofun⟩

/-- What keeping a level comes to if the path of the fan has the null character: no write
    gets as far as the host, and the first one that is due is refused. -/
structure Barred (fan : ThinkpadFan) (level : Level) (m : Machine)
    (r : Fan × Except Failure Unit) (m' : Machine) (es : List Entry) : Prop where
  requests : es.map Entry.request = if fan.depulse = .zero then [.now] else []
  unchanged : m' = { m with journal := m'.journal }
  outcome : r = (.thinkpad fan,
    if fan.depulse ≠ .zero then
      .error (Fan.levelRefused fan.path "level disengaged" .nulInPath)
    else if fan.watchdogDue m.clock then
      .error (Fan.levelRefused fan.path level.text .nulInPath)
    else .ok ())

theorem keep_barred (hnul : '\x00' ∈ fan.path.toList) (level : Level) (m : Machine) :
    ((Fan.thinkpad fan).perform (.keep level)).wp (fun r m' es =>
      fan.Barred level m r m' es) m := by
  rw [wp_perform_keep]
  by_cases hdepulse : fan.depulse = .zero
  · have hsteady : ¬ fan.depulse ≠ .zero := not_not_intro hdepulse
    rw [wp_keep_steady hdepulse]
    split
    · rename_i hdue
      rw [setSpeed_nul hnul]
      exact ⟨(if_pos hdepulse).symm, rfl, by rw [if_neg hsteady, if_pos hdue]; rfl⟩
    · rename_i hnot
      exact ⟨(if_pos hdepulse).symm, rfl, by rw [if_neg hsteady, if_neg hnot]; rfl⟩
  · rw [wp_keep_depulsing hdepulse, Fan.writeLevel_nul hnul]
    exact ⟨(if_neg hdepulse).symm, rfl, by rw [if_pos hdepulse]; rfl⟩

theorem Barred.writes {m m' : Machine} {r : Fan × Except Failure Unit} {es : List Entry}
    (h : fan.Barred level m r m' es) : writesIn es = [] := by
  refine List.filterMap_eq_nil_iff.2 fun e he => Entry.write?_of_ne fun hkind => ?_
  have hmem : e.request ∈ es.map Entry.request := List.mem_map_of_mem he
  rw [h.requests] at hmem
  split at hmem
  · rw [List.mem_singleton.1 hmem] at hkind
    cases hkind
  · cases hmem

/-! ## Texts -/

/-- What an operation writes, apart from letting the fan run free. -/
def text? (fan : ThinkpadFan) : Fan.Operation → Option String
  | .takeOver => some s!"watchdog {fan.watchdog.seconds}"
  | .setSpeed level | .keep level => some level.text
  | .restore | .release => some (Fan.thinkpad fan).restoreText
  | .adjust _ => none

/-- The command of an operation, if it has a text. -/
def commands (fan : ThinkpadFan) (o : Fan.Operation) : List (String × String) :=
  (fan.text? o).toList.map fun text => (fan.path, text)

theorem restore_makes (fan : ThinkpadFan) :
    fan.restore.run.Every (Request.Makes [(fan.path, (Fan.thinkpad fan).restoreText)]) := by
  unfold restore
  split
  · refine (Every.run_ofProgram (ControlFile.write_makes (.head _))).run_bind fun _ => ?_
    exact Every.run_lift (every_request trivial)
  · exact every_run_pure _

/-- An operation makes nothing but its command, unless it keeps a level. -/
theorem perform_makes (fan : ThinkpadFan) {o : Fan.Operation} (ho : ∀ level, o ≠ .keep level) :
    ((Fan.thinkpad fan).perform o).Every (Request.Makes (fan.commands o)) := by
  cases o with
  | takeOver => exact (Every.run_ofProgram (ControlFile.write_makes (.head _))).map _
  | setSpeed level =>
    refine Every.map _ (Every.run_map Fan.thinkpad ?_)
    refine (Every.run_ofProgram (ControlFile.write_makes (.head _))).run_bind fun _ => ?_
    exact (Every.run_lift (every_request trivial)).run_bind fun _ => every_run_pure _
  | keep level => exact absurd rfl (ho level)
  | restore => exact fan.restore_makes.map _
  | adjust setting => exact every_pure _
  | release => exact (fan.restore_makes.orLog fun _ _ => trivial).map _

/-- Neither the level of the operation, if it has one, nor the level that was found lets the
    fan run free. -/
structure Restrained (fan : ThinkpadFan) (o : Fan.Operation) : Prop where
  level : ∀ level, o.level? = some level → level.text ≠ "level disengaged"
  found : (Fan.thinkpad fan).restoreText ≠ "level disengaged"

/-- No text of an operation lets the fan run free then. -/
theorem Restrained.text {o : Fan.Operation} (h : fan.Restrained o) {text : String}
    (htext : fan.text? o = some text) : text.toUTF8 ≠ "level disengaged".toUTF8 := by
  have hne : text ≠ "level disengaged" → text.toUTF8 ≠ "level disengaged".toUTF8 :=
    fun hne hbytes => hne (String.toByteArray_inj.1 hbytes)
  cases o with
  | takeOver =>
    cases htext
    intro hbytes
    have hlevel : levelCommand.isPrefixOf "level disengaged".toUTF8.data.toList = true :=
      levelCommand_isPrefixOf "disengaged"
    have hwatchdog := levelCommand_not_isPrefixOf (toString fan.watchdog.seconds)
    change levelCommand.isPrefixOf (s!"watchdog {fan.watchdog.seconds}").toUTF8.data.toList = _
      at hwatchdog
    rw [hbytes, hlevel] at hwatchdog
    cases hwatchdog
  | setSpeed level => cases htext; exact hne (h.level level rfl)
  | keep level => cases htext; exact hne (h.level level rfl)
  | restore => cases htext; exact hne h.found
  | adjust setting => cases htext
  | release => cases htext; exact hne h.found

/-- The fan is left to run free only by a call to keep a level, and that call fails. -/
theorem perform_leaves_free {o : Fan.Operation} (ho : fan.Restrained o) (m : Machine) :
    ((Fan.thinkpad fan).perform o).wp (fun r _ es => ∀ front w back,
      writesIn es = front ++ w :: back → w.result = .ok () →
      w.contents = "level disengaged".toUTF8 → (∀ v ∈ back, v.result ≠ .ok ()) →
      front = [] ∧ ∃ level f, o = .keep level ∧ r.2 = .error f) m := by
  by_cases hkeep : ∃ level, o = .keep level
  · obtain ⟨level, rfl⟩ := hkeep
    have hlevel : level.text.toUTF8 ≠ "level disengaged".toUTF8 := ho.text rfl
    by_cases hpath : '\x00' ∈ fan.path.toList
    · refine wp_mono (keep_barred hpath level m) ?_
      rintro r m' es h front w back hws - - -
      rw [h.writes] at hws
      exact absurd hws.symm (List.append_ne_nil_of_right_ne_nil _ nofun)
    by_cases hdepulse : fan.depulse = .zero
    · refine wp_mono (keep_feeds_if_due hpath hdepulse level m) ?_
      rintro r m' es ⟨result?, h⟩ front w back hws - hfree -
      have hw : w ∈ writesIn es := hws ▸ List.mem_append_right _ (.head _)
      rw [h.writes, Option.mem_toList, Option.map_eq_some_iff] at hw
      obtain ⟨result, -, rfl⟩ := hw
      exact absurd hfree hlevel
    · refine wp_mono (keep_depulses hpath hdepulse level m) ?_
      rintro r m' es ⟨freed, applied?, h⟩ front w back hws hw hfree hback
      rw [h.writes] at hws
      cases front with
      | cons u front =>
        -- The write that applies the level does not let the fan run free.
        have hw : w ∈ (applied?.map (.ofText m'.clock fan.path level.text)).toList := by
          rw [(List.cons.inj hws).2]
          exact List.mem_append_right _ (.head _)
        rw [Option.mem_toList, Option.map_eq_some_iff] at hw
        obtain ⟨result, -, rfl⟩ := hw
        exact absurd hfree hlevel
      | nil =>
        -- The level was not applied after this write, or there would be a later one that
        -- succeeded, so the call has failed.
        obtain ⟨rfl, rfl⟩ := List.cons.inj hws
        refine ⟨rfl, level, ?_⟩
        cases hr : r.2 with
        | error f => exact ⟨f, rfl, rfl⟩
        | ok a =>
          obtain ⟨-, happlied⟩ := h.ok_iff.1 hr
          rw [happlied] at hback
          exact absurd rfl (hback _ (.head _))
  · refine wp_mono ((perform_makes fan fun level h => hkeep ⟨level, h⟩).makes m) ?_
    intro r m' es hmakes front w back hws _ hfree _
    obtain ⟨c, hc, -, hcontents⟩ := hmakes w (hws ▸ List.mem_append_right _ (.head _))
    obtain ⟨text, htext, rfl⟩ := List.mem_map.1 hc
    exact absurd (hcontents.symm.trans hfree) (ho.text (Option.mem_toList.1 htext))

end ThinkpadFan

/-! ## Runs -/

namespace Fan

theorem perform_thinkpad (fan : ThinkpadFan) (o : Operation) (m : Machine) :
    ((thinkpad fan).perform o).wp (fun r _ _ => ∃ fan', r.1 = thinkpad fan') m := by
  have hsteered : ∀ r : Except Failure ThinkpadFan,
      ∃ fan', ((thinkpad fan).steered (r.map thinkpad)).1 = thinkpad fan' := by
    rintro (f | fan')
    · exact ⟨fan, rfl⟩
    · exact ⟨fan', rfl⟩
  cases o with
  | takeOver => exact (wp_map _ _).2 ⟨fan, rfl⟩
  | setSpeed level => exact ThinkpadFan.wp_perform_setSpeed.2 (hsteered _)
  | keep level => exact ThinkpadFan.wp_perform_keep.2 (hsteered _)
  | restore => exact (wp_map _ _).2 ⟨fan.restored, rfl⟩
  | adjust setting => exact ⟨fan.adjust setting, rfl⟩
  | release => exact (wp_map _ _).2 ⟨fan.restored, rfl⟩

end Fan

namespace Custody

variable {c : Custody} {fan : ThinkpadFan}

/-- A ThinkPad fan stays what it is, whatever happens. -/
theorem after_thinkpad (hfan : c.fan = .thinkpad fan) (events : List Event) :
    ∃ held : ThinkpadFan, (c.after events).fan = .thinkpad held ∧ held.path = fan.path ∧
      (Fan.thinkpad held).restoreText = (Fan.thinkpad fan).restoreText := by
  suffices h : ∃ held, (c.after events).fan = .thinkpad held by
    obtain ⟨held, hheld⟩ := h
    have horigin := c.sameOrigin_after events
    rw [hfan, hheld] at horigin
    exact ⟨held, hheld, horigin.restoreTarget, horigin.restoreText⟩
  induction events generalizing c fan with
  | nil => exact ⟨fan, hfan⟩
  | cons e events ih =>
    cases e with
    | change change => exact ih (c := c.step (.change change)) hfan
    | operation o =>
      obtain ⟨fan', hperform⟩ := Fan.perform_thinkpad fan o c.machine
      rw [← hfan] at hperform
      exact ih (c := c.step (.operation o)) hperform

/-- A write of a run is made in one of its operations: after what was written before that,
    and before what is written after it. -/
theorem exists_operation_of_writes {events : List Event} {front back : List Write} {w : Write}
    (hws : c.writes events = front ++ w :: back) :
    ∃ before o later front' back', events = before ++ .operation o :: later ∧
      front = c.writes before ++ front' ∧
      writesIn ((c.after before).trace o) = front' ++ w :: back' ∧ back' <+: back := by
  induction events generalizing c front with
  | nil => exact absurd hws.symm (List.append_ne_nil_of_right_ne_nil _ nofun)
  | cons e events ih =>
    cases e with
    | change change =>
      obtain ⟨before, o, later, front', back', rfl, hfront, hws, hback⟩ :=
        ih (c := c.step (.change change)) hws
      exact ⟨.change change :: before, o, later, front', back', rfl, hfront, hws, hback⟩
    | operation o =>
      rw [writes_operation, List.append_eq_append_iff] at hws
      -- The operation ends before the write, or it makes the write.
      rcases hws with ⟨more, rfl, hrest⟩ | ⟨more, hmade, hrest⟩
      · obtain ⟨before, o', later, front', back', rfl, rfl, hws, hback⟩ := ih hrest
        refine ⟨.operation o :: before, o', later, front', back', rfl, ?_, hws, hback⟩
        rw [writes_operation, List.append_assoc]
      · cases more with
        | nil =>
          have hrest : (c.step (.operation o)).writes events = [] ++ w :: back := hrest.symm
          obtain ⟨before, o', later, front', back', rfl, hfront, hws, hback⟩ := ih hrest
          rw [List.append_nil] at hmade
          refine ⟨.operation o :: before, o', later, front', back', rfl, ?_, hws, hback⟩
          rw [writes_operation, List.append_assoc, ← hfront, List.append_nil, hmade]
        | cons v more =>
          obtain ⟨rfl, rfl⟩ := List.cons.inj hrest
          exact ⟨[], o, events, front, more, rfl, rfl, hmade, List.prefix_append _ _⟩

/-- What is known of a ThinkPad fan, however it is used. -/
structure NeverLeftFree (fan : ThinkpadFan) (start : Custody) (events : List Event) : Prop where
  /-- Each call to keep a level does what it should, with the settings that the fan has by
      then. -/
  keeps : ∀ front level back, events = front ++ .operation (.keep level) :: back →
    ∃ held : ThinkpadFan, (start.after front).fan = .thinkpad held ∧ held.path = fan.path ∧
      ((start.after front).fan.perform (.keep level)).wp (fun r m' es =>
        let m := (start.after front).machine
        if '\x00' ∈ fan.path.toList then held.Barred level m r m' es
        else if held.depulse = .zero then ∃ result?, held.Feeds level m result? r m' es
        else ∃ freed applied?, held.Depulses level m freed applied? r m' es)
        (start.after front).machine
  /-- If the last write that succeeded lets the fan run free, though neither a level that was
      asked for nor the one that was found does, then it is the first write of a call to keep
      a level, and this call fails. -/
  told : (∀ o, .operation o ∈ events → fan.Restrained o) →
    ∀ front w back, start.writes events = front ++ w :: back → w.result = .ok () →
      (∀ v ∈ back, v.result ≠ .ok ()) → w.contents = "level disengaged".toUTF8 →
      ∃ before level later f, events = before ++ .operation (.keep level) :: later ∧
        start.writes before = front ∧
        (writesIn ((start.after before).trace (.keep level))).head? = some w ∧
        (start.after before).result (.keep level) = .error f

/-- A ThinkPad fan is never left to run free in silence, whatever is done with it, however
    the machine changes and whatever fails: a call to keep a level that lets the fan run free
    either applies the level after that or reports a failure, and nothing else lets the fan
    run free. -/
theorem never_left_free (fan : ThinkpadFan) (m : Machine) (events : List Event) :
    NeverLeftFree fan ⟨.thinkpad fan, m⟩ events := by
  let start : Custody := ⟨.thinkpad fan, m⟩
  constructor
  · rintro front level back -
    obtain ⟨held, hheld, hsame, -⟩ := after_thinkpad (c := start) rfl front
    refine ⟨held, hheld, hsame, ?_⟩
    rw [hheld, ← hsame]
    by_cases hpath : '\x00' ∈ held.path.toList
    · simp only [if_pos hpath]
      exact ThinkpadFan.keep_barred hpath level _
    simp only [if_neg hpath]
    by_cases hdepulse : held.depulse = .zero
    · simp only [if_pos hdepulse]
      exact ThinkpadFan.keep_feeds_if_due hpath hdepulse level _
    · simp only [if_neg hdepulse]
      exact ThinkpadFan.keep_depulses hpath hdepulse level _
  · intro hrestrained front w back hws hw hback hfree
    obtain ⟨before, o, later, front', back', hsplit, rfl, hmade, hearlier⟩ :=
      exists_operation_of_writes hws
    obtain ⟨held, hheld, -, htext⟩ := after_thinkpad (c := start) rfl before
    have hasked : fan.Restrained o :=
      hrestrained o (hsplit ▸ List.mem_append_right _ (.head _))
    have ho : held.Restrained o := ⟨hasked.level, htext ▸ hasked.found⟩
    have hrun := ThinkpadFan.perform_leaves_free ho (start.after before).machine
    rw [← hheld] at hrun
    obtain ⟨rfl, level, f, rfl, hfails⟩ :=
      hrun front' w back' hmade hw hfree fun v hv => hback v (hearlier.subset hv)
    refine ⟨before, level, later, f, hsplit, (List.append_nil _).symm, ?_, hfails⟩
    rw [hmade]
    rfl

/-- A fan that runs free when its level is refused. -/
theorem stuck_never_left_free :
    let fan : ThinkpadFan := { path := "fan", initialLevel := "auto", depulse := .ofSeconds 1 }
    let files : Registry ByteArray := ⟨[("fan", ByteArray.empty)]⟩
    let start : Custody := ⟨.thinkpad fan, { files, faults := [⟨"fan", .write, 5, 1, some 1⟩] }⟩
    let events : List Event := [.operation (.keep (.numeric 3))]
    NeverLeftFree fan start events ∧
      (start.writes events).map (fun w => (w.time.nanos - start.machine.clock.nanos,
        w.contents.data.toList == "level disengaged".toUTF8.data.toList, w.result.isOk)) =
        [(0, true, true), (1000000000, false, false)] ∧
      (start.result (.keep (.numeric 3))).isOk = false :=
  ⟨never_left_free _ _ _, by decide +kernel, by decide +kernel⟩

end Custody

end Cooling
