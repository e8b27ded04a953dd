-- SUMMARY: Opening a GPU or a disk behind a vendor library: in which stages, on which machines it succeeds, and which calls are made.
import Cooling.Proofs.Sensors

/-!
# Opening backends

A backend behind a vendor library is opened in stages: a library is loaded, its functions are
looked up, and so on. A stage makes calls and may fail. Then no later stage makes any, and what
the stages before it have got hold of is given back, the last of it first. `Stage.calls` and
`Stage.failure` say this for any list of stages. The stages of a GPU and of a disk are read off
the machine, which opening leaves as it is.
-/

namespace Cooling

open Program

/-! ## Calls -/

/-- The machines differ at most in what they have noted. -/
def Machine.Alike (m m' : Machine) : Prop := ∃ journal, m' = { m with journal }

theorem Machine.Alike.trans {m m' m'' : Machine} (h : m.Alike m') (h' : m'.Alike m'') :
    m.Alike m'' := by
  obtain ⟨journal, rfl⟩ := h
  obtain ⟨journal', rfl⟩ := h'
  exact ⟨journal', rfl⟩

/-- The calls that a trace notes: everything but messages to log. -/
def callsIn (es : List Entry) : List Request :=
  (es.map Entry.request).filter fun r => r.kind ≠ .log

@[simp] theorem callsIn_append (es fs : List Entry) :
    callsIn (es ++ fs) = callsIn es ++ callsIn fs := by
  simp [callsIn]

/-- A program makes calls, ends with a value, and leaves the machine as it is. -/
def Program.Makes (x : Program α) (calls : List Request) (a : α) (m : Machine) : Prop :=
  x.wp (fun a' m' es => a' = a ∧ callsIn es = calls ∧ m.Alike m') m

variable {m : Machine}

theorem makes_pure (a : α) : (pure a : Program α).Makes [] a m := ⟨rfl, rfl, m.journal, rfl⟩

theorem makes_log (severity : Severity) (message : String) :
    (Program.log severity message).Makes [] () m := ⟨rfl, rfl, _, rfl⟩

theorem makes_call {r : Request} (h : r.kind = .vendor) :
    (request r).Makes [r] (m.answer r).1 m := by
  refine ⟨rfl, ?_, ?_⟩
  · simp [callsIn, h]
  · cases r with
    | loadLibrary | unloadLibrary | hasSymbol | nvmlInit | nvmlShutdown | nvmlHandle
    | nvmlName | diskOpen | diskFree => exact ⟨_, rfl⟩
    | _ => cases h

theorem Program.Makes.bind {x : Program α} {k : α → Program β} {cs ds : List Request} {a : α}
    {b : β} (hx : x.Makes cs a m) (hk : ∀ m', m.Alike m' → (k a).Makes ds b m') :
    (x >>= k).Makes (cs ++ ds) b m := by
  refine (wp_bind _ _).2 (wp_mono hx ?_)
  rintro _ m' es ⟨rfl, rfl, halike⟩
  refine wp_mono (hk m' halike) ?_
  rintro _ m'' fs ⟨rfl, rfl, halike'⟩
  exact ⟨rfl, callsIn_append es fs, halike.trans halike'⟩

theorem Program.Makes.map {x : Program α} {cs : List Request} {a : α} (f : α → β)
    (hx : x.Makes cs a m) : (f <$> x).Makes cs (f a) m := by
  refine (wp_map _ _).2 (wp_mono hx ?_)
  rintro _ m' es ⟨rfl, h⟩
  exact ⟨rfl, h⟩

/-! ### Attempts -/

theorem makes_run_pure (a : α) : (pure a : Attempt α).run.Makes [] (.ok a) m := makes_pure _

theorem makes_run_throw (f : Failure) : (throw f : Attempt α).run.Makes [] (.error f) m :=
  makes_pure _

theorem Program.Makes.run_lift {x : Program α} {cs : List Request} {a : α} (hx : x.Makes cs a m) :
    (liftM x : Attempt α).run.Makes cs (.ok a) m :=
  hx.map Except.ok

theorem Program.Makes.run_bind {x : Attempt α} {k : α → Attempt β} {cs ds : List Request} {a : α}
    {r : Except Failure β} (hx : x.run.Makes cs (.ok a) m)
    (hk : ∀ m', m.Alike m' → (k a).run.Makes ds r m') : (x >>= k).run.Makes (cs ++ ds) r m := by
  rw [ExceptT.run_bind]
  exact hx.bind hk

theorem Program.Makes.run_bind_error {x : Attempt α} {cs : List Request} {f : Failure}
    (hx : x.run.Makes cs (.error f) m) (k : α → Attempt β) :
    (x >>= k).run.Makes cs (.error f) m := by
  rw [ExceptT.run_bind, ← List.append_nil cs]
  exact hx.bind fun m' _ => makes_pure _

theorem Program.Makes.run_ofProgram {x : Program (Except ε α)} {cs : List Request}
    {r : Except ε α} (hx : x.Makes cs r m) (failure : ε → Failure) :
    (Attempt.ofProgram x failure).run.Makes cs (r.mapError failure) m := by
  rw [Attempt.run_ofProgram]
  exact hx.map _

theorem Program.Makes.elseFirst {x : Attempt α} {cs : List Request} {a : α}
    (hx : x.run.Makes cs (.ok a) m) (last : Program Unit) :
    (x.elseFirst last).run.Makes cs (.ok a) m := by
  rw [Attempt.elseFirst, ExceptT.run_mk, ← List.append_nil cs]
  exact hx.bind fun m' _ => makes_pure _

theorem Program.Makes.elseFirst_error {x : Attempt α} {cs ds : List Request} {f : Failure}
    {last : Program Unit} (hx : x.run.Makes cs (.error f) m)
    (hlast : ∀ m', m.Alike m' → last.Makes ds () m') :
    (x.elseFirst last).run.Makes (cs ++ ds) (.error f) m := by
  rw [Attempt.elseFirst, ExceptT.run_mk]
  refine hx.bind fun m' halike => ?_
  rw [← List.append_nil ds]
  exact (hlast m' halike).bind fun m'' _ => makes_pure _

theorem Program.Makes.orLog {x : Attempt Unit} {cs : List Request} {r : Except Failure Unit}
    (hx : x.run.Makes cs r m) (text : Failure → String) : (x.orLog text).Makes cs () m := by
  rw [Attempt.orLog, ← List.append_nil cs]
  refine hx.bind fun m' _ => ?_
  cases r with
  | ok a => exact makes_pure ()
  | error f => exact makes_log _ _

/-! ## Stages -/

/-- A stage of an opening on a machine. -/
structure Stage where
  calls : List Request
  /-- Why the stage fails, if it does. -/
  failure? : Option Failure
  /-- What gives back what the stage has got hold of. -/
  undo : List Request := []

namespace Stage

/-- The failure of the first stage that fails. -/
def failure (stages : List Stage) : Option Failure := stages.findSome? failure?

/-- The calls of stages: those of each stage up to the first one that fails, and then what
    gives back what was got hold of before, the last of it first. -/
def allCalls : List Stage → List Request
  | [] => []
  | s :: stages => s.calls ++
    match s.failure? with
    | some _ => []
    | none => allCalls stages ++ if (failure stages).isSome then s.undo else []

/-- What gives back everything that stages have got hold of. -/
def undoAll : List Stage → List Request
  | [] => []
  | s :: stages => undoAll stages ++ s.undo

/-- How an opening ends that gives `a` if no stage fails. -/
def result (stages : List Stage) (a : α) : Except Failure α :=
  match failure stages with
  | some f => .error f
  | none => .ok a

variable {s : Stage} {front back : List Stage} {f : Failure}

theorem failure_cons (s : Stage) (stages : List Stage) :
    failure (s :: stages) = s.failure?.or (failure stages) := by
  cases h : s.failure? <;> simp [failure, h]

theorem failure_append (front back : List Stage) :
    failure (front ++ back) = (failure front).or (failure back) := by
  simp [failure, List.findSome?_append]

theorem result_append (h : failure front = none) (back : List Stage) (a : α) :
    result (front ++ back) a = result back a := by
  rw [result, failure_append, h, Option.none_or, result]

theorem allCalls_singleton (s : Stage) : allCalls [s] = s.calls := by
  cases h : s.failure? <;> simp [allCalls, failure, h]

/-- Stages after the first one that fails do not count. -/
theorem allCalls_append_of_failure (h : failure front = some f) (back : List Stage) :
    allCalls (front ++ back) = allCalls front := by
  induction front with
  | nil => cases h
  | cons s front ih =>
    rw [failure_cons] at h
    rw [List.cons_append, allCalls, allCalls]
    cases hs : s.failure? with
    | some g => rfl
    | none =>
      rw [hs, Option.none_or] at h
      dsimp only
      rw [ih h, failure_append, h, Option.some_or]

/-- Stages that all pass make their calls. -/
theorem allCalls_eq {stages : List Stage} (h : failure stages = none) :
    allCalls stages = stages.flatMap calls := by
  induction stages with
  | nil => rfl
  | cons s stages ih =>
    rw [failure_cons, Option.or_eq_none_iff] at h
    rw [allCalls, h.1]
    dsimp only
    rw [ih h.2, h.2, List.flatMap_cons]
    simp

/-- Stages that pass make their calls, then come the others, and what was got hold of is given
    back if one of these fails. -/
theorem allCalls_append (h : failure front = none) (back : List Stage) :
    allCalls (front ++ back) = front.flatMap calls ++ allCalls back ++
      if (failure back).isSome then undoAll front else [] := by
  induction front with
  | nil => simp [undoAll]
  | cons s front ih =>
    rw [failure_cons, Option.or_eq_none_iff] at h
    rw [List.cons_append, allCalls, h.1]
    dsimp only
    rw [ih h.2, failure_append, h.2, Option.none_or, undoAll, List.flatMap_cons]
    split <;> simp

/-- The first stage that fails makes the last calls, but for those that give something back. -/
theorem allCalls_stop (hfront : failure front = none) (hs : s.failure? = some f)
    (back : List Stage) : failure (front ++ s :: back) = some f ∧
      allCalls (front ++ s :: back) = front.flatMap calls ++ s.calls ++ undoAll front := by
  have hback : failure (s :: back) = some f := by rw [failure_cons, hs, Option.some_or]
  have hcalls : allCalls (s :: back) = s.calls := by simp [allCalls, hs]
  rw [failure_append, hfront, Option.none_or, allCalls_append hfront, hcalls, hback]
  exact ⟨rfl, rfl⟩

end Stage

/-! ### Attempts that go through stages -/

theorem Attempt.map_elseFirst (f : α → β) (x : Attempt α) (last : Program Unit) :
    (f <$> x).elseFirst last = f <$> x.elseFirst last := by
  refine ExceptT.ext ?_
  simp only [elseFirst, ExceptT.run_mk, ExceptT.run_map, bind_map_left, map_bind]
  refine congrArg (x.run >>= ·) (funext fun r => ?_)
  cases r with
  | ok a => rfl
  | error g => exact (map_bind (Except.map f) last fun _ => pure (.error g)).symm

/-- The attempt goes through the stages on the machine, and gives `a` if none of them fails. -/
def Attempt.Passes (x : Attempt α) (stages : List Stage) (a : α) (m : Machine) : Prop :=
  x.run.Makes (Stage.allCalls stages) (Stage.result stages a) m

namespace Attempt.Passes

variable {x : Attempt α} {front back : List Stage} {a : α} {b : β}

/-- An attempt of a single stage. -/
theorem single {calls undo : List Request} {failure? : Option Failure}
    (h : x.run.Makes calls (failure?.elim (.ok a) .error) m) :
    x.Passes [{ calls, failure?, undo }] a m := by
  cases failure? <;> simpa [Attempt.Passes, Stage.allCalls, Stage.result, Stage.failure] using h

theorem pure (a : α) : (pure a : Attempt α).Passes [] a m := makes_pure _

theorem map (f : α → β) (hx : x.Passes front a m) : (f <$> x).Passes front (f a) m := by
  have hresult : (Stage.result front a).map f = Stage.result front (f a) := by
    unfold Stage.result
    cases Stage.failure front <;> rfl
  unfold Attempt.Passes
  rw [ExceptT.run_map, ← hresult]
  exact Program.Makes.map _ hx

/-- A check that makes no calls. -/
theorem guard {c : Prop} [Decidable c] {f : Failure} {k : PUnit → Attempt α}
    (hk : (k ⟨⟩).Passes back a m) :
    (if c then throw f >>= k else k ⟨⟩).Passes
      ({ calls := [], failure? := if c then some f else none } :: back) a m := by
  split
  · exact makes_pure _
  · simpa [Attempt.Passes, Stage.allCalls, Stage.result, Stage.failure] using hk

/-- A call whose answer is checked. What comes after it makes no more calls. -/
theorem call {r : Request} (hr : r.kind = .vendor) {c : r.Answer → Prop} [DecidablePred c]
    {f : r.Answer → Failure} {k : r.Answer → PUnit → Attempt α} (undo : List Request)
    (hk : ∀ m', m.Alike m' → (k (m.answer r).1 ⟨⟩).run.Makes [] (.ok a) m') :
    (liftM (request r) >>= fun x => if c x then throw (f x) >>= k x else k x ⟨⟩ : Attempt α).Passes
      [{ calls := [r]
         failure? := if c (m.answer r).1 then some (f (m.answer r).1) else none
         undo }] a m := by
  have hchecked : ∀ m', m.Alike m' →
      (if c (m.answer r).1 then throw (f (m.answer r).1) >>= k (m.answer r).1
        else k (m.answer r).1 ⟨⟩ : Attempt α).run.Makes []
        ((if c (m.answer r).1 then some (f (m.answer r).1) else none).elim (.ok a) .error) m' := by
    intro m' halike
    split
    · exact (makes_run_throw _).run_bind_error _
    · exact hk m' halike
  exact .single ((makes_call hr).run_lift.run_bind hchecked)

/-- The stages of the first part pass or not. -/
theorem cases (hx : x.Passes front a m) :
    (∃ f, Stage.failure front = some f ∧ x.run.Makes (Stage.allCalls front) (.error f) m) ∨
      Stage.failure front = none ∧ x.run.Makes (front.flatMap Stage.calls) (.ok a) m := by
  unfold Attempt.Passes at hx
  cases h : Stage.failure front with
  | some f =>
    rw [Stage.result, h] at hx
    exact .inl ⟨f, rfl, hx⟩
  | none =>
    rw [Stage.result, h, Stage.allCalls_eq h] at hx
    exact .inr ⟨rfl, hx⟩

theorem of_failure {y : Attempt β} {f : Failure} (hfront : Stage.failure front = some f)
    (hy : y.run.Makes (Stage.allCalls front) (.error f) m) (back : List Stage) (b : β) :
    y.Passes (front ++ back) b m := by
  unfold Attempt.Passes
  rw [Stage.allCalls_append_of_failure hfront, Stage.result, Stage.failure_append, hfront]
  exact hy

/-- A first part, and one after it. Either the first one gets hold of nothing, or the other one
    does not fail. -/
theorem bind {k : α → Attempt β} (hx : x.Passes front a m)
    (hclean : Stage.undoAll front = [] ∨ Stage.failure back = none)
    (hk : ∀ m', m.Alike m' → (k a).Passes back b m') : (x >>= k).Passes (front ++ back) b m := by
  rcases hx.cases with ⟨f, hfront, hx⟩ | ⟨hfront, hx⟩
  · exact of_failure hfront (hx.run_bind_error k) back b
  · have hnothing : (if (Stage.failure back).isSome then Stage.undoAll front else []) = [] := by
      rcases hclean with h | h
      · rw [h, ite_self]
      · rw [h, Option.isSome_none, if_neg nofun]
    unfold Attempt.Passes
    rw [Stage.allCalls_append hfront, hnothing, List.append_nil, Stage.result_append hfront]
    exact hx.run_bind hk

/-- What the stages of the first part have got hold of is given back by a last step if a later
    stage fails. -/
theorem andThen {k : α → Attempt β} {last : α → Program Unit} (hx : x.Passes front a m)
    (hk : ∀ m', m.Alike m' → (k a).Passes back b m')
    (hlast : ∀ m', m.Alike m' → (last a).Makes (Stage.undoAll front) () m') :
    (x >>= fun a => (k a).elseFirst (last a)).Passes (front ++ back) b m := by
  rcases hx.cases with ⟨f, hfront, hx⟩ | ⟨hfront, hx⟩
  · exact of_failure hfront (hx.run_bind_error _) back b
  · unfold Attempt.Passes
    rw [Stage.allCalls_append hfront, Stage.result_append hfront, List.append_assoc]
    refine hx.run_bind fun m' halike => ?_
    rcases (hk m' halike).cases with ⟨f, hback, hk⟩ | ⟨hback, hk⟩
    · rw [Stage.result, hback]
      exact hk.elseFirst_error fun m'' halike' => hlast m'' (halike.trans halike')
    · rw [Stage.result, hback, Stage.allCalls_eq hback, Option.isSome_none, if_neg nofun,
        List.append_nil]
      exact hk.elseFirst (last a)

theorem ok_iff (hx : x.Passes front a m) (a' : α) :
    x.run.value m = .ok a' ↔ Stage.failure front = none ∧ a' = a := by
  obtain ⟨hvalue, -, -⟩ := hx
  rw [hvalue, Stage.result]
  cases Stage.failure front <;> simp [eq_comm]

theorem error_iff (hx : x.Passes front a m) (f : Failure) :
    x.run.value m = .error f ↔ Stage.failure front = some f := by
  obtain ⟨hvalue, -, -⟩ := hx
  rw [hvalue, Stage.result]
  cases Stage.failure front <;> simp

/-- Nothing but cleaning up comes after the stage that fails. -/
theorem stops {s : Stage} {f : Failure} (hx : x.Passes (front ++ s :: back) a m)
    (hfront : Stage.failure front = none) (hs : s.failure? = some f) :
    x.run.value m = .error f ∧
      callsIn (x.run.trace m) = front.flatMap Stage.calls ++ s.calls ++ Stage.undoAll front := by
  obtain ⟨hfailure, hstop⟩ := Stage.allCalls_stop hfront hs back
  exact ⟨(hx.error_iff f).2 hfailure, hx.2.1.trans hstop⟩

end Attempt.Passes

/-! ## Libraries -/

namespace Machine

/-- Why a library does not load, if it does not. -/
def refusal? (m : Machine) (name : String) : Option Failure :=
  match m.loadLibrary name with
  | .ok () => none
  | .error reason => some (Library.notLoaded name reason)

/-- The first of several libraries that loads. -/
def picks (m : Machine) (names : List String) : Option String :=
  names.find? fun name => (m.refusal? name).isNone

/-- The library that is picked, if one is. -/
def picked (m : Machine) (names : List String) : Library := ⟨(m.picks names).getD ""⟩

end Machine

namespace Library

/-- The stage in which the first of several libraries is loaded that loads. No other is tried
    after it, and if there is none the failure is about the last one. -/
def loading (m : Machine) (names : List String) (failed : Failure → Failure) : Stage where
  calls := (names.takeWhile (fun name => (m.refusal? name).isSome) ++
    (m.picks names).toList).map .loadLibrary
  failure? := if (m.picks names).isSome then none
    else some (failed ((names.getLast?.bind m.refusal?).getD noNames))
  undo := [.unloadLibrary (m.picked names).name]

/-- The stage in which functions are looked up in a library, up to the first that is missing. -/
def requiring (m : Machine) (name : String) (missing : String → Failure) (symbols : List String) :
    Stage where
  calls := (symbols.takeWhile (m.hasSymbol name) ++
    (symbols.find? fun symbol => !m.hasSymbol name symbol).toList).map (.hasSymbol name)
  failure? := (symbols.find? fun symbol => !m.hasSymbol name symbol).map missing

/-- The stages of a backend: a library is loaded, its functions are looked up, and then it is
    used. -/
def stages (m : Machine) (names symbols : List String) (failed : Failure → Failure)
    (missing : String → String → Failure) (uses : List Stage) : List Stage :=
  loading m names failed ::
    requiring m (m.picked names).name (missing (m.picked names).name) symbols :: uses

theorem load_makes {name : String} (hname : '\x00' ∉ name.toList) (m : Machine) :
    (load name).run.Makes [.loadLibrary name] ((m.refusal? name).elim (.ok ⟨name⟩) .error) m := by
  have hload : (Attempt.ofProgram (request (.loadLibrary name)) (notLoaded name)).run.Makes
      [.loadLibrary name] ((m.loadLibrary name).mapError (notLoaded name)) m :=
    (makes_call rfl).run_ofProgram _
  unfold load Machine.refusal?
  rw [if_neg hname]
  cases hloaded : m.loadLibrary name with
  | ok loaded =>
    rw [hloaded] at hload
    exact hload.run_bind fun _ _ => (makes_log _ _).run_lift.run_bind fun _ _ => makes_run_pure _
  | error reason =>
    rw [hloaded] at hload
    exact hload.run_bind_error _

/-- How loading the first of several libraries ends. -/
def loaded (m : Machine) (failed : Failure) (names : List String) : Except Failure Library :=
  match m.picks names with
  | some name => .ok ⟨name⟩
  | none => .error ((names.getLast?.bind m.refusal?).getD failed)

theorem loaded_cons_of_refused {m : Machine} {name : String} {f : Failure}
    (h : m.refusal? name = some f) (failed : Failure) (names : List String) :
    loaded m failed (name :: names) = loaded m f names := by
  have hpicks : m.picks (name :: names) = m.picks names := by
    rw [Machine.picks, List.find?_cons, h]
    rfl
  unfold loaded
  rw [hpicks]
  cases hnone : m.picks names with
  | some other => rfl
  | none =>
    rw [List.getLast?_cons]
    cases hlast : names.getLast? with
    | none => simp [h]
    | some last =>
      -- The last library does not load either.
      have hrefused := List.find?_eq_none.1 hnone last (List.mem_of_getLast? hlast)
      cases hg : m.refusal? last with
      | none => exact absurd (hg ▸ rfl) hrefused
      | some g => simp [hg]

theorem loadFirst_makes {names : List String} (hnames : ∀ name ∈ names, '\x00' ∉ name.toList)
    (failed : Failure) (m : Machine) :
    (loadFirst failed names).run.Makes ((names.takeWhile (fun name => (m.refusal? name).isSome) ++
      (m.picks names).toList).map .loadLibrary) (loaded m failed names) m := by
  induction names generalizing failed m with
  | nil => exact makes_run_throw failed
  | cons name names ih =>
    obtain ⟨hname, hnames⟩ := List.forall_mem_cons.1 hnames
    have hload := load_makes hname m
    rw [loadFirst, ExceptT.run_mk]
    cases hrefused : m.refusal? name with
    | none =>
      rw [hrefused] at hload
      have hpicks : m.picks (name :: names) = some name := by
        rw [Machine.picks, List.find?_cons, hrefused]
        rfl
      rw [loaded, hpicks, List.takeWhile_cons_of_neg (by rw [hrefused]; nofun)]
      exact hload.bind fun _ _ => makes_pure _
    | some f =>
      rw [hrefused] at hload
      have hpicks : m.picks (name :: names) = m.picks names := by
        rw [Machine.picks, List.find?_cons, hrefused]
        rfl
      rw [loaded_cons_of_refused hrefused, hpicks,
        List.takeWhile_cons_of_pos (by rw [hrefused]; rfl)]
      refine hload.bind ?_
      rintro _ ⟨journal, rfl⟩
      exact ih hnames f { m with journal }

theorem exports_makes (library : Library) {symbol : String} (hsymbol : '\x00' ∉ symbol.toList)
    (m : Machine) : (library.exports symbol).Makes [.hasSymbol library.name symbol]
      (m.hasSymbol library.name symbol) m := by
  unfold exports
  rw [if_neg hsymbol]
  refine (makes_call (r := .hasSymbol library.name symbol) rfl).bind fun m' _ => ?_
  rw [Machine.answer]
  cases m.hasSymbol library.name symbol with
  | true => exact makes_pure _
  | false => exact (makes_log _ _).bind fun _ _ => makes_pure _

theorem requireAll_makes (library : Library) (missing : String → Failure) {symbols : List String}
    (hsymbols : ∀ symbol ∈ symbols, '\x00' ∉ symbol.toList) (m : Machine) :
    (library.requireAll missing symbols).run.Makes
      (requiring m library.name missing symbols).calls
      ((requiring m library.name missing symbols).failure?.elim (.ok ()) .error) m := by
  induction symbols generalizing m with
  | nil => exact makes_run_pure ()
  | cons symbol symbols ih =>
    obtain ⟨hsymbol, hsymbols⟩ := List.forall_mem_cons.1 hsymbols
    have hexports := (library.exports_makes hsymbol m).run_lift
    rw [requireAll]
    unfold requiring
    cases hfound : m.hasSymbol library.name symbol with
    | true =>
      rw [hfound] at hexports
      rw [List.takeWhile_cons_of_pos hfound, List.find?_cons_of_neg (by rw [hfound]; nofun)]
      refine hexports.run_bind ?_
      rintro _ ⟨journal, rfl⟩
      exact ih hsymbols { m with journal }
    | false =>
      rw [hfound] at hexports
      rw [List.takeWhile_cons_of_neg (by rw [hfound]; nofun),
        List.find?_cons_of_pos (by rw [hfound]; rfl)]
      exact hexports.run_bind fun _ _ => makes_run_throw _

theorem requireAll_passes (library : Library) (missing : String → Failure) {symbols : List String}
    (hsymbols : ∀ symbol ∈ symbols, '\x00' ∉ symbol.toList) (m : Machine) :
    (library.requireAll missing symbols).Passes [requiring m library.name missing symbols] () m :=
  .single (library.requireAll_makes missing hsymbols m)

/-- The first of several libraries that loads is loaded. -/
theorem loadAny_makes {names : List String} (hnames : ∀ name ∈ names, '\x00' ∉ name.toList)
    (m : Machine) : (loadAny names).run.Makes (loading m names id).calls
      ((loading m names id).failure?.elim (.ok (m.picked names)) .error) m := by
  have hmakes := loadFirst_makes hnames noNames m
  unfold loaded at hmakes
  unfold loadAny loading Machine.picked
  dsimp only
  cases hpicks : m.picks names <;> rw [hpicks] at hmakes <;> exact hmakes

theorem loadAny_passes {names : List String} (hnames : ∀ name ∈ names, '\x00' ∉ name.toList)
    (m : Machine) : (loadAny names).Passes [loading m names id] (m.picked names) m :=
  .single (loadAny_makes hnames m)

/-- The same if the failure is reported as another one. -/
theorem ofProgram_loadAny_passes {names : List String}
    (hnames : ∀ name ∈ names, '\x00' ∉ name.toList) (failed : Failure → Failure) (m : Machine) :
    (Attempt.ofProgram (loadAny names).run failed).Passes [loading m names failed]
      (m.picked names) m := by
  have hmapped : Except.mapError failed
      ((loading m names id).failure?.elim (.ok (m.picked names)) .error) =
        (loading m names failed).failure?.elim (.ok (m.picked names)) .error := by
    unfold loading
    split <;> rfl
  have hmakes := (loadAny_makes hnames m).run_ofProgram failed
  rw [hmapped] at hmakes
  exact .single hmakes

theorem unload_makes (library : Library) (m : Machine) :
    library.unload.Makes [.unloadLibrary library.name] () m :=
  (makes_call rfl).bind fun _ _ => makes_log _ _

end Library

/-! ## GPUs -/

namespace NvmlSession

/-- The stage in which a session is started. -/
def initializing (m : Machine) : Stage where
  calls := [.nvmlInit]
  failure? := if m.nvmlInitCode ≠ 0 then some (.vendor "nvmlInit_v2" m.nvmlInitCode) else none
  undo := [.nvmlShutdown]

/-- The stages in which a session is started in a library that loads. -/
def starting (m : Machine) : List Stage :=
  Library.stages m libraryNames symbols notLoaded incompatible [initializing m]

/-- The stages in which a GPU is looked up. -/
def lookingUp (m : Machine) (bus : String) : List Stage :=
  [{ calls := [], failure? := if '\x00' ∈ bus.toList then some (invalidBus bus) else none },
    { calls := [.nvmlHandle bus]
      failure? := if m.nvmlHandle bus ≠ 0 then
        some (.vendor s!"nvmlDeviceGetHandleByPciBusId_v2({bus})" (m.nvmlHandle bus)) else none }]

theorem startIn_passes (library : Library) (m : Machine) :
    (startIn library).Passes
      [Library.requiring m library.name (incompatible library.name) symbols, initializing m]
      { library } m := by
  refine (library.requireAll_passes _ (by decide) m).bind (.inl rfl) ?_
  rintro _ ⟨journal, rfl⟩
  exact .call (r := .nvmlInit) rfl [.nvmlShutdown] fun _ _ =>
    (makes_log _ _).run_lift.run_bind fun _ _ => makes_run_pure _

theorem start_passes (m : Machine) :
    start.Passes (starting m) { library := m.picked libraryNames } m := by
  refine (Library.ofProgram_loadAny_passes (by decide) notLoaded m).andThen ?_ ?_
  · rintro _ ⟨journal, rfl⟩
    exact startIn_passes _ { m with journal }
  · exact fun m' _ => Library.unload_makes _ m'

/-- Dropping a session ends it and unloads its library. -/
theorem drop_makes {session : NvmlSession} (h : session.initialized = true) (m : Machine) :
    session.drop.Makes [.nvmlShutdown, .unloadLibrary session.library.name] () m := by
  have hshutdown : session.shutdown.Passes
      [{ calls := [.nvmlShutdown]
         failure? := if m.nvmlShutdownCode ≠ 0 then
           some (.vendor "nvmlShutdown" m.nvmlShutdownCode) else none }] () m := by
    unfold shutdown
    rw [if_pos h]
    exact .call (r := .nvmlShutdown) rfl [] fun _ _ => (makes_log _ _).run_lift
  have hended : (session.shutdown.orLog notShutDown).Makes [.nvmlShutdown] () m := by
    have hmakes := Program.Makes.orLog hshutdown notShutDown
    rwa [Stage.allCalls_singleton] at hmakes
  exact hended.bind fun m' _ => session.library.unload_makes m'

theorem device_passes {session : NvmlSession} (h : session.initialized = true) (bus : String)
    (m : Machine) : (session.device bus).Passes (lookingUp m bus) { bus } m := by
  have hready : session.ensureInitialized = pure () := if_pos h
  rw [device, hready, pure_bind]
  exact .guard (.call (r := .nvmlHandle bus) rfl [] fun _ _ => makes_run_pure _)

/-- The name of a GPU is asked for, and whatever comes of that, nothing fails. -/
theorem announce_makes {session : NvmlSession} (h : session.initialized = true)
    (device : NvmlDevice) (m : Machine) : (GpuSensor.announce session device).Makes
      [.nvmlName device.bus nameCapacity] () m := by
  have hready : session.ensureInitialized = pure () := if_pos h
  have hname : ∃ text, (session.deviceName device).Passes
      [{ calls := [.nvmlName device.bus nameCapacity]
         failure? := if (m.nvmlName device.bus nameCapacity).code ≠ 0 then
           some (.vendor "nvmlDeviceGetName" (m.nvmlName device.bus nameCapacity).code)
           else none }] text m := by
    rw [deviceName, hready, pure_bind]
    exact ⟨_, .call (r := .nvmlName device.bus nameCapacity) rfl [] fun _ _ => makes_run_pure _⟩
  obtain ⟨text, hname⟩ := hname
  unfold Attempt.Passes at hname
  rw [Stage.allCalls_singleton] at hname
  refine hname.bind fun m' _ => ?_
  cases Stage.result _ text with
  | ok name => exact makes_log _ _
  | error f => exact makes_log _ _

end NvmlSession

namespace GpuSensor

/-- The stages in which a GPU is found with the functions of the library. That it tells its
    name is not needed. -/
def uses (m : Machine) (bus : String) : List Stage :=
  NvmlSession.initializing m :: NvmlSession.lookingUp m bus ++
    [{ calls := [.nvmlName bus NvmlSession.nameCapacity], failure? := none }]

/-- The stages in which a GPU is found. -/
def stages (m : Machine) (bus : String) : List Stage :=
  Library.stages m NvmlSession.libraryNames NvmlSession.symbols NvmlSession.notLoaded
    NvmlSession.incompatible (uses m bus)

/-- The sensor for a GPU that was found with a library. -/
def opened (library : Library) (bus : String) : GpuSensor where
  base := SensorBase.withCount { path := bus } 1
  backend? := some ({ library }, { bus })

theorem find_passes (m : Machine) (bus : String) :
    (find bus).Passes (stages m bus) (opened (m.picked NvmlSession.libraryNames) bus) m := by
  have hdevice : (NvmlSession.start >>= fun session =>
      (Prod.mk session <$> session.device bus).elseFirst session.drop).Passes
      (NvmlSession.starting m ++ NvmlSession.lookingUp m bus)
      ({ library := m.picked NvmlSession.libraryNames }, { bus }) m := by
    refine (NvmlSession.start_passes m).andThen ?_ ?_
    · rintro _ ⟨journal, rfl⟩
      exact (NvmlSession.device_passes rfl bus { m with journal }).map _
    · exact fun m' _ => NvmlSession.drop_makes rfl m'
  have hfind : find bus = (NvmlSession.start >>= fun session =>
      (Prod.mk session <$> session.device bus).elseFirst session.drop) >>= fun p => do
        announce p.1 p.2
        return { base := SensorBase.withCount { path := bus } 1, backend? := some p } := by
    simp only [find, Attempt.map_elseFirst, bind_assoc, bind_map_left]
  rw [hfind]
  refine hdevice.bind (.inr rfl) fun m' _ => .single ?_
  exact (NvmlSession.announce_makes rfl { bus } m').run_lift.run_bind fun _ _ => makes_run_pure _

end GpuSensor

/-! ## Disks -/

namespace SmartDisk

/-- The stages in which a disk is opened with the functions of the library. -/
def uses (m : Machine) (path : String) : List Stage :=
  [{ calls := [], failure? := if '\x00' ∈ path.toList then some (invalidPath path) else none },
    { calls := [.diskOpen path]
      failure? := if (m.diskOpen path).code < 0 ∨ (m.diskOpen path).value = false then
        some (callFailed "sk_disk_open" path (m.diskOpen path).errno) else none }]

/-- The stages in which a disk is opened. -/
def stages (m : Machine) (path : String) : List Stage :=
  Library.stages m libraryNames symbols id incompatible (uses m path)

theorem acquireIn_passes (library : Library) (path : String) (m : Machine) :
    (acquireIn library path).Passes
      (Library.requiring m library.name (incompatible library.name) symbols :: uses m path)
      { path, library } m := by
  refine (library.requireAll_passes _ (by decide) m).bind (.inl rfl) ?_
  rintro _ ⟨journal, rfl⟩
  exact .guard (.call (r := .diskOpen path) rfl [] fun _ _ =>
    (makes_log _ _).run_lift.run_bind fun _ _ => makes_run_pure _)

theorem acquire_passes (m : Machine) (path : String) :
    (acquire path).Passes (stages m path) { path, library := m.picked libraryNames } m := by
  refine (Library.loadAny_passes (by decide) m).andThen ?_ ?_
  · rintro _ ⟨journal, rfl⟩
    exact acquireIn_passes _ path { m with journal }
  · exact fun m' _ => Library.unload_makes _ m'

end SmartDisk

/-- The sensor for a disk that was opened with a library. -/
def DiskSensor.opened (library : Library) (path : String) : DiskSensor where
  base := SensorBase.withCount { path } 1
  disk := { path, library }

theorem DiskSensor.find_passes (m : Machine) (path : String) :
    (find path).Passes (SmartDisk.stages m path)
      (opened (m.picked SmartDisk.libraryNames) path) m :=
  (SmartDisk.acquire_passes m path).bind (.inr rfl) fun _ _ => .pure _

/-! ## What opening comes to -/

/-- The library that is picked exports the functions. -/
structure Machine.Offers (m : Machine) (names symbols : List String) (name : String) : Prop where
  picks : m.picks names = some name
  exports : ∀ symbol ∈ symbols, m.hasSymbol name symbol = true

/-- What is known of opening a backend: of which libraries one is loaded, which functions it
    must export, which failure is reported if none loads, in which stages it happens, what else
    the machine must accept, when the name of the backend is at fault, and what is opened. -/
structure Opening (x : Attempt α) (names symbols : List String) (failed : Failure → Failure)
    (stages : List Stage) (accepted malformed : Prop) (opened : Library → α) (m : Machine) :
    Prop where
  succeeds_iff : ∀ a, x.run.value m = .ok a ↔
    ∃ name, m.Offers names symbols name ∧ accepted ∧ a = opened ⟨name⟩
  /-- If none of the libraries loads, it is said why the last one does not. -/
  unloaded : m.picks names = none → ∃ name reason, names.getLast? = some name ∧
    m.loadLibrary name = .error reason ∧
    x.run.value m = .error (failed (Library.notLoaded name reason))
  kind : ∀ f, x.run.value m = .error f → f.kind = .system ∨ f.kind = .config
  config_iff : (∃ f, x.run.value m = .error f ∧ f.kind = .config) ↔
    ∃ name, m.Offers names symbols name ∧ malformed
  /-- If all stages pass, their calls are made, and no others. -/
  passes : Stage.failure stages = none → callsIn (x.run.trace m) = stages.flatMap Stage.calls
  /-- If a stage fails, it makes the last calls, but for those that give back what the stages
      before it have got hold of. -/
  stops : ∀ front s back f, stages = front ++ s :: back → Stage.failure front = none →
    s.failure? = some f → x.run.value m = .error f ∧
      callsIn (x.run.trace m) = front.flatMap Stage.calls ++ s.calls ++ Stage.undoAll front

namespace Machine

theorem picks_eq_none {names : List String} (h : m.picks names = none) {name : String}
    (hname : name ∈ names) : ∃ reason, m.loadLibrary name = .error reason := by
  have hrefused := List.find?_eq_none.1 h name hname
  unfold refusal? at hrefused
  cases hload : m.loadLibrary name with
  | ok loaded => exact absurd (by rw [hload]; rfl) hrefused
  | error reason => exact ⟨reason, rfl⟩

theorem Offers.unique {names symbols : List String} {name name' : String}
    (h : m.Offers names symbols name) (h' : m.Offers names symbols name') : name = name' :=
  Option.some.inj (h.picks.symm.trans h'.picks)

theorem offers_iff {names symbols : List String} {name : String} :
    m.Offers names symbols name ↔ m.picks names = some name ∧
      (symbols.find? fun symbol => !m.hasSymbol name symbol) = none := by
  rw [List.find?_eq_none]
  simp only [Bool.not_eq_true', Bool.not_eq_false]
  exact ⟨fun ⟨hpicks, hexports⟩ => ⟨hpicks, hexports⟩, fun ⟨hpicks, hexports⟩ => ⟨hpicks, hexports⟩⟩

end Machine

/-- Loading fails if no library loads, and it is said why the last one does not. -/
theorem Library.loading_fails {names : List String} (hnames : names ≠ [])
    (failed : Failure → Failure) (h : m.picks names = none) :
    ∃ name reason, names.getLast? = some name ∧ m.loadLibrary name = .error reason ∧
      (loading m names failed).failure? = some (failed (notLoaded name reason)) := by
  obtain ⟨reason, hreason⟩ := Machine.picks_eq_none h (List.getLast_mem hnames)
  have hlast := List.getLast?_eq_getLast_of_ne_nil hnames
  refine ⟨_, reason, hlast, hreason, ?_⟩
  have hrefusal : m.refusal? (names.getLast hnames) =
      some (notLoaded (names.getLast hnames) reason) := by
    rw [Machine.refusal?, hreason]
  rw [loading, h, hlast]
  simp [hrefusal]

namespace Opening

variable {x : Attempt α} {names symbols : List String} {failed : Failure → Failure}
  {missing : String → String → Failure} {uses : List Stage} {accepted malformed : Prop}
  {opened : Library → α}

/-- The stages fail with a failure of the system if no library loads, or if the one that is
    loaded lacks a function. Else the uses of the library decide. -/
theorem failure_eq (symbols : List String) (uses : List Stage) (hnames : names ≠ [])
    (hfailed : ∀ name reason, (failed (Library.notLoaded name reason)).kind = .system)
    (hmissing : ∀ name symbol, (missing name symbol).kind = .system) :
    (∃ name, m.Offers names symbols name ∧ m.picked names = ⟨name⟩ ∧
      Stage.failure (Library.stages m names symbols failed missing uses) = Stage.failure uses) ∨
    (∀ name, ¬ m.Offers names symbols name) ∧ ∃ f, f.kind = .system ∧
      Stage.failure (Library.stages m names symbols failed missing uses) = some f := by
  simp only [Library.stages, Stage.failure_cons, Machine.offers_iff]
  cases hpicks : m.picks names with
  | none =>
    right
    obtain ⟨name, reason, -, -, hfails⟩ := Library.loading_fails hnames failed hpicks
    exact ⟨nofun, _, hfailed name reason, by rw [hfails, Option.some_or]⟩
  | some name =>
    have hloads : (Library.loading m names failed).failure? = none := by
      rw [Library.loading, hpicks]
      rfl
    have hpicked : m.picked names = ⟨name⟩ := by rw [Machine.picked, hpicks]; rfl
    rw [hloads, hpicked, Option.none_or]
    cases hfound : symbols.find? fun symbol => !m.hasSymbol name symbol with
    | none =>
      left
      refine ⟨name, ⟨rfl, hfound⟩, rfl, ?_⟩
      rw [Library.requiring, hfound]
      rfl
    | some symbol =>
      right
      refine ⟨?_, missing name symbol, hmissing name symbol, ?_⟩
      · rintro name' ⟨hname', hnone⟩
        cases hname'
        rw [hfound] at hnone
        cases hnone
      · rw [Library.requiring, hfound]
        rfl

/-- What opening comes to follows from the stages that it goes through. -/
theorem of_passes (hnames : names ≠ [])
    (hfailed : ∀ name reason, (failed (Library.notLoaded name reason)).kind = .system)
    (hmissing : ∀ name symbol, (missing name symbol).kind = .system)
    (haccepted : Stage.failure uses = none ↔ accepted)
    (hkind : ∀ f, Stage.failure uses = some f → f.kind = .system ∨ f.kind = .config)
    (hmalformed : (∃ f, Stage.failure uses = some f ∧ f.kind = .config) ↔ malformed)
    (hx : x.Passes (Library.stages m names symbols failed missing uses)
      (opened (m.picked names)) m) :
    Opening x names symbols failed (Library.stages m names symbols failed missing uses)
      accepted malformed opened m := by
  have hends := failure_eq (m := m) symbols uses hnames hfailed hmissing
  constructor
  case succeeds_iff =>
    intro a
    rw [hx.ok_iff]
    rcases hends with ⟨name, hoffers, hpicked, huses⟩ | ⟨hnot, f, -, hfailure⟩
    · rw [huses, haccepted, hpicked]
      constructor
      · rintro ⟨haccepts, ha⟩
        exact ⟨name, hoffers, haccepts, ha⟩
      · rintro ⟨name', hoffers', haccepts, ha⟩
        exact ⟨haccepts, hoffers'.unique hoffers ▸ ha⟩
    · rw [hfailure]
      exact ⟨nofun, fun ⟨name, hoffers, _⟩ => absurd hoffers (hnot name)⟩
  case unloaded =>
    intro hpicks
    obtain ⟨name, reason, hlast, hreason, hloading⟩ := Library.loading_fails hnames failed hpicks
    refine ⟨name, reason, hlast, hreason, (hx.error_iff _).2 ?_⟩
    rw [Library.stages, Stage.failure_cons, hloading, Option.some_or]
  case kind =>
    intro f hf
    rw [hx.error_iff] at hf
    rcases hends with ⟨-, -, -, huses⟩ | ⟨-, g, hg, hfailure⟩
    · exact hkind f (huses ▸ hf)
    · rw [hfailure] at hf
      exact .inl (Option.some.inj hf ▸ hg)
  case config_iff =>
    simp only [hx.error_iff]
    rcases hends with ⟨name, hoffers, -, huses⟩ | ⟨hnot, g, hg, hfailure⟩
    · rw [huses, hmalformed]
      exact ⟨fun h => ⟨name, hoffers, h⟩, fun ⟨_, _, h⟩ => h⟩
    · rw [hfailure]
      refine ⟨?_, fun ⟨name, hoffers, _⟩ => absurd hoffers (hnot name)⟩
      rintro ⟨f, hf, hconfig⟩
      rw [Option.some.inj hf, hconfig] at hg
      cases hg
  case passes =>
    exact fun hnone => hx.2.1.trans (Stage.allCalls_eq hnone)
  case stops =>
    intro front s back f hsplit hfront hs
    rw [hsplit] at hx
    exact hx.stops hfront hs

end Opening

/-- A GPU fails if no session starts, then if its bus id is not well-formed, and then if it is
    not known. -/
theorem GpuSensor.failure_uses (m : Machine) (bus : String) :
    Stage.failure (uses m bus) =
      if m.nvmlInitCode ≠ 0 then some (.vendor "nvmlInit_v2" m.nvmlInitCode)
      else if '\x00' ∈ bus.toList then some (NvmlSession.invalidBus bus)
      else if m.nvmlHandle bus ≠ 0 then
        some (.vendor s!"nvmlDeviceGetHandleByPciBusId_v2({bus})" (m.nvmlHandle bus))
      else none := by
  simp only [uses, NvmlSession.lookingUp, NvmlSession.initializing, List.cons_append,
    List.nil_append, Stage.failure_cons]
  split_ifs <;> rfl

/-- A disk fails if its path is not well-formed, and then if it cannot be opened. -/
theorem SmartDisk.failure_uses (m : Machine) (path : String) :
    Stage.failure (uses m path) =
      if '\x00' ∈ path.toList then some (invalidPath path)
      else if (m.diskOpen path).code < 0 ∨ (m.diskOpen path).value = false then
        some (callFailed "sk_disk_open" path (m.diskOpen path).errno)
      else none := by
  simp only [uses, Stage.failure_cons]
  split_ifs <;> rfl

@[simp] theorem NvmlSession.kind_invalidBus (bus : String) : (invalidBus bus).kind = .config := rfl

@[simp] theorem SmartDisk.kind_invalidPath (path : String) :
    (invalidPath path).kind = .config := rfl

@[simp] theorem SmartDisk.kind_callFailed (function path : String) (errno : Int) :
    (callFailed function path errno).kind = .system := rfl

/-- A GPU and a disk are opened in stages. A library is loaded, the first of its names that
    loads, and it must export all functions that are needed. Then the management library must
    start a session, and the bus id must be well-formed and known to it; the path of the disk
    must be well-formed, and the disk library must open the disk and give a handle for it. The
    failure is one of the system, but for a name that is not well-formed when it comes to that. -/
theorem opened_in_stages (m : Machine) (bus path : String) :
    Opening (GpuSensor.find bus) NvmlSession.libraryNames NvmlSession.symbols
        NvmlSession.notLoaded (GpuSensor.stages m bus)
        (m.nvmlInitCode = 0 ∧ '\x00' ∉ bus.toList ∧ m.nvmlHandle bus = 0)
        (m.nvmlInitCode = 0 ∧ '\x00' ∈ bus.toList)
        (fun library => GpuSensor.opened library bus) m ∧
      Opening (DiskSensor.find path) SmartDisk.libraryNames SmartDisk.symbols
        id (SmartDisk.stages m path)
        ('\x00' ∉ path.toList ∧ 0 ≤ (m.diskOpen path).code ∧ (m.diskOpen path).value = true)
        ('\x00' ∈ path.toList) (fun library => DiskSensor.opened library path) m := by
  constructor
  · have hfailure := GpuSensor.failure_uses m bus
    refine .of_passes (by decide) (fun _ _ => rfl) (fun _ _ => rfl) ?accepted ?kind ?malformed
      (GpuSensor.find_passes m bus) <;> rw [hfailure]
    case accepted => split_ifs <;> simp_all
    case kind => split_ifs <;> simp
    case malformed => split_ifs <;> simp_all
  · have hfailure := SmartDisk.failure_uses m path
    have hopens : ¬ ((m.diskOpen path).code < 0 ∨ (m.diskOpen path).value = false) ↔
        0 ≤ (m.diskOpen path).code ∧ (m.diskOpen path).value = true := by
      rw [not_or, Int.not_lt, Bool.not_eq_false]
    refine .of_passes (by decide) (fun _ _ => rfl) (fun _ _ => rfl) ?accepted ?kind ?malformed
      (DiskSensor.find_passes m path) <;> rw [hfailure]
    case accepted =>
      rw [← hopens]
      split_ifs <;> simp_all
    case kind => split_ifs <;> simp
    case malformed => split_ifs <;> simp_all

end Cooling
