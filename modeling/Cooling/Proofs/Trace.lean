-- SUMMARY: What a program does on a machine: its trace, a calculus of postconditions over it, and the requests that a program can make at all.
import Cooling.Machine.Run

/-!
# Traces

The trace of a program on a machine lists the entries that it adds to the
journal. `Program.wp` states a postcondition of a run: about the value, the
machine after it and the trace. It is computed along the program, so a property
of a function follows from those of the functions that it calls.

Some properties hold whatever the host answers. `Program.Gives` is about the
value of a program that does not give up, and `Program.Every` about each of its
requests. Most functions make requests of a few kinds only: `Program.Asks` lists
these kinds, and what a kind of request leaves alone is left alone by every
program that makes no others.
-/

namespace Cooling

/-! ## Traces -/

/-- The entry for a request in the journal. -/
def Machine.entry (m : Machine) (r : Request) : Entry :=
  ⟨m.clock, r, (m.serve r).1, m.requestInterruptions r⟩

@[simp] theorem Machine.entry_time (m : Machine) (r : Request) : (m.entry r).time = m.clock := rfl
@[simp] theorem Machine.entry_request (m : Machine) (r : Request) : (m.entry r).request = r := rfl

/-- Answering a request alters the machine as the answer does, and notes an entry. -/
theorem Machine.serve_snd (m : Machine) (r : Request) :
    (m.serve r).2 =
      { (m.answer r).2 with journal := m.entry r :: (m.answer r).2.journal } := rfl

@[simp] theorem Machine.serve_fst (m : Machine) (r : Request) :
    (m.serve r).1 = (m.answer r).1 := rfl

theorem Machine.journal_change (m : Machine) (c : Change) : (m.change c).journal = m.journal := by
  cases c <;> rfl

theorem Machine.journal_settle (m : Machine) (cs : List (Instant × Change)) :
    (m.settle cs).journal = m.journal := by
  induction cs generalizing m with
  | nil => rfl
  | cons c cs ih =>
    unfold settle
    split
    · rw [ih, journal_change]
    · rfl

/-- An answer leaves the journal as it is: only serving a request adds to it. -/
theorem Machine.journal_answer (m : Machine) (r : Request) :
    (m.answer r).2.journal = m.journal := by
  cases r with
  | openFile path => unfold answer openFile tries; grind
  | readFile path => unfold answer readFile openFile tries triesOnce; grind
  | writeFile path contents => unfold answer writeFile tries; grind
  | sleep d => exact journal_settle _ _
  | _ => rfl

theorem Machine.history_serve (m : Machine) (r : Request) :
    (m.serve r).2.history = m.history ++ [m.entry r] := by
  unfold history
  rw [serve_snd, journal_answer, List.reverse_cons]

namespace Program

def value (x : Program α) (m : Machine) : α := (x.run m).1

/-- The machine after a program. -/
def after (x : Program α) (m : Machine) : Machine := (x.run m).2

/-- The entries that a program adds to the journal, in order. -/
def trace : Program α → Machine → List Entry
  | done _, _ => []
  | ask r next, m => m.entry r :: (next (m.serve r).1).trace (m.serve r).2

@[simp] theorem trace_done (a : α) (m : Machine) : (done a).trace m = [] := rfl

@[simp] theorem trace_request (r : Request) (m : Machine) : (request r).trace m = [m.entry r] := rfl

theorem value_bind (x : Program α) (k : α → Program β) (m : Machine) :
    (x >>= k).value m = (k (x.value m)).value (x.after m) := congrArg Prod.fst (run_bind x k m)

theorem after_bind (x : Program α) (k : α → Program β) (m : Machine) :
    (x >>= k).after m = (k (x.value m)).after (x.after m) := congrArg Prod.snd (run_bind x k m)

theorem trace_bind (x : Program α) (k : α → Program β) (m : Machine) :
    (x >>= k).trace m = x.trace m ++ (k (x.value m)).trace (x.after m) := by
  induction x generalizing m with
  | done a => rfl
  | ask r next ih => exact congrArg (m.entry r :: ·) (ih _ _)

/-- What has happened after a program is what had happened before it, and its trace. -/
theorem history_after (x : Program α) (m : Machine) :
    (x.after m).history = m.history ++ x.trace m := by
  induction x generalizing m with
  | done a => exact (List.append_nil _).symm
  | ask r next ih =>
    have hrest := ih (m.serve r).1 (m.serve r).2
    rw [m.history_serve, List.append_assoc] at hrest
    exact hrest

/-- Every entry of a trace is that of a request on some machine. -/
theorem exists_entry (x : Program α) {m : Machine} {e : Entry} (he : e ∈ x.trace m) :
    ∃ (m' : Machine) (r : Request), e = m'.entry r := by
  induction x generalizing m with
  | done a => cases he
  | ask r next ih =>
    rcases List.mem_cons.1 he with rfl | he
    · exact ⟨m, r, rfl⟩
    · exact ih _ he

/-! ## Postconditions -/

/-- The postcondition `Q` holds of the value of a program, of the machine after it
    and of its trace. -/
def wp (x : Program α) (Q : α → Machine → List Entry → Prop) (m : Machine) : Prop :=
  Q (x.value m) (x.after m) (x.trace m)

variable {x : Program α} {Q R : α → Machine → List Entry → Prop} {m : Machine}

theorem wp_iff : x.wp Q m ↔ Q (x.value m) (x.after m) (x.trace m) := Iff.rfl

theorem wp_mono (h : x.wp Q m) (hQ : ∀ a m' es, Q a m' es → R a m' es) : x.wp R m := hQ _ _ _ h

theorem wp_congr (h : ∀ a m' es, Q a m' es ↔ R a m' es) : x.wp Q m ↔ x.wp R m := h _ _ _

theorem wp_of_forall (h : ∀ a m' es, Q a m' es) : x.wp Q m := h _ _ _

theorem wp_and (hQ : x.wp Q m) (hR : x.wp R m) : x.wp (fun a m' es => Q a m' es ∧ R a m' es) m :=
  ⟨hQ, hR⟩

theorem wp_self : x.wp (fun a m' es => x.run m = (a, m') ∧ x.trace m = es) m := ⟨rfl, rfl⟩

@[simp] theorem wp_done (a : α) : (done a).wp Q m ↔ Q a m [] := Iff.rfl

@[simp] theorem wp_request (r : Request) {Q : r.Answer → Machine → List Entry → Prop} :
    (request r).wp Q m ↔ Q (m.serve r).1 (m.serve r).2 [m.entry r] := Iff.rfl

@[simp] theorem wp_bind (x : Program α) (k : α → Program β)
    {Q : β → Machine → List Entry → Prop} :
    (x >>= k).wp Q m ↔
      x.wp (fun a m' es => (k a).wp (fun b m'' fs => Q b m'' (es ++ fs)) m') m := by
  simp only [wp, value_bind, after_bind, trace_bind]

@[simp] theorem wp_map (f : α → β) (x : Program α) {Q : β → Machine → List Entry → Prop} :
    (f <$> x).wp Q m ↔ x.wp (fun a m' es => Q (f a) m' es) m := by
  rw [map_eq_pure_bind, wp_bind]
  simp only [pure_eq_done, wp_done, List.append_nil]

/-! ### Programs that may give up -/

/-- What may give up goes on with the value of its first part, and gives up if that does. -/
@[simp] theorem wp_run_bind (x : ExceptT ε Program α) (f : α → ExceptT ε Program β)
    {Q : Except ε β → Machine → List Entry → Prop} :
    (x >>= f).run.wp Q m ↔
      x.run.wp (fun r m' es =>
        match r with
        | .ok a => (f a).run.wp (fun b m'' fs => Q b m'' (es ++ fs)) m'
        | .error e => Q (.error e) m' es) m := by
  rw [ExceptT.run_bind, wp_bind]
  refine iff_of_eq (congrArg (fun P => wp _ P m) (funext fun r => ?_))
  cases r with
  | ok a => rfl
  | error e => funext m' es; simp

@[simp] theorem wp_run_lift (x : Program α) {Q : Except ε α → Machine → List Entry → Prop} :
    (liftM x : ExceptT ε Program α).run.wp Q m ↔ x.wp (fun a m' es => Q (.ok a) m' es) m :=
  wp_map Except.ok x

@[simp] theorem wp_run_pure (a : α) {Q : Except ε α → Machine → List Entry → Prop} :
    (pure a : ExceptT ε Program α).run.wp Q m ↔ Q (.ok a) m [] := Iff.rfl

@[simp] theorem wp_run_throw (e : ε) {Q : Except ε α → Machine → List Entry → Prop} :
    (throw e : ExceptT ε Program α).run.wp Q m ↔ Q (.error e) m [] := Iff.rfl

/-- A check that gives up if it fails, and what comes after it. -/
theorem wp_run_guard {c : Prop} [Decidable c] (e : ε) (k : PUnit → ExceptT ε Program α)
    {Q : Except ε α → Machine → List Entry → Prop} :
    (if c then throw e >>= k else k ⟨⟩).run.wp Q m ↔
      if c then Q (.error e) m [] else (k ⟨⟩).run.wp Q m := by
  split <;> rfl

@[simp] theorem wp_run_map (f : α → β) (x : ExceptT ε Program α)
    {Q : Except ε β → Machine → List Entry → Prop} :
    (f <$> x).run.wp Q m ↔ x.run.wp (fun r m' es => Q (r.map f) m' es) m := by
  rw [ExceptT.run_map, wp_map]

end Program

@[simp] theorem mapError_ok (f : ε → ε') (a : α) : (Except.ok a).mapError f = .ok a := rfl

@[simp] theorem mapError_error (f : ε → ε') (e : ε) :
    (Except.error e : Except ε α).mapError f = .error (f e) := rfl

namespace Attempt

variable {m : Machine}

theorem run_ofProgram (x : Program (Except ε α)) (failure : ε → Failure) :
    (ofProgram x failure).run = Except.mapError failure <$> x := by
  rw [ofProgram, ExceptT.run_mk, map_eq_pure_bind]
  refine congrArg (x >>= ·) (funext fun r => ?_)
  cases r <;> rfl

@[simp] theorem wp_ofProgram (x : Program (Except ε α)) (failure : ε → Failure)
    {Q : Except Failure α → Machine → List Entry → Prop} :
    (ofProgram x failure).run.wp Q m ↔ x.wp (fun r m' es => Q (r.mapError failure) m' es) m := by
  rw [run_ofProgram, Program.wp_map]

@[simp] theorem wp_orLog (x : Attempt Unit) (text : Failure → String)
    {Q : Unit → Machine → List Entry → Prop} :
    (x.orLog text).wp Q m ↔
      x.run.wp (fun r m' es =>
        match r with
        | .ok () => Q () m' es
        | .error f =>
          (Program.log .error (text f)).wp (fun _ m'' fs => Q () m'' (es ++ fs)) m') m := by
  rw [orLog, Program.wp_bind]
  refine iff_of_eq (congrArg (fun P => Program.wp _ P m) (funext fun r => ?_))
  cases r with
  | ok a => funext m' es; simp
  | error f => rfl

/-- What fails runs its last step before it gives up. -/
@[simp] theorem wp_elseFirst (x : Attempt α) (last : Program Unit)
    {Q : Except Failure α → Machine → List Entry → Prop} :
    (x.elseFirst last).run.wp Q m ↔
      x.run.wp (fun r m' es =>
        match r with
        | .ok a => Q (.ok a) m' es
        | .error f => last.wp (fun _ m'' fs => Q (.error f) m'' (es ++ fs)) m') m := by
  rw [elseFirst, ExceptT.run_mk, Program.wp_bind]
  refine iff_of_eq (congrArg (fun P => Program.wp _ P m) (funext fun r => ?_))
  cases r with
  | ok a => funext m' es; simp
  | error f => funext m' es; simp

end Attempt

/-! ## Values -/

namespace Program

/-- Unless it gives up, the value of the program satisfies `R`, whatever the host answers. -/
def Gives (x : ExceptT ε Program α) (R : α → Prop) : Prop :=
  ∀ m a, x.run.value m = .ok a → R a

variable {R : α → Prop} {S : β → Prop}

theorem Gives.wp {x : ExceptT ε Program α} (hx : Gives x R) (m : Machine) :
    x.run.wp (fun r _ _ => ∀ a, r = .ok a → R a) m := hx m

theorem gives_true (x : ExceptT ε Program α) : Gives x fun _ => True := fun _ _ _ => trivial

theorem gives_pure {a : α} (h : R a) : Gives (pure a : ExceptT ε Program α) R := by
  rintro m _ ⟨⟩
  exact h

theorem Gives.bind {x : ExceptT ε Program α} {f : α → ExceptT ε Program β} (hx : Gives x R)
    (hf : ∀ a, R a → Gives (f a) S) : Gives (x >>= f) S := by
  intro m b
  suffices h : (x >>= f).run.wp (fun r _ _ => r = .ok b → S b) m from h
  rw [wp_run_bind]
  refine wp_mono (hx.wp m) fun r m' es hr => ?_
  cases r with
  | ok a => exact hf a (hr a rfl) m' b
  | error e => exact fun h => nomatch h

theorem Gives.map {x : ExceptT ε Program α} {f : α → β} (hx : Gives x (fun a => S (f a))) :
    Gives (f <$> x) S := by
  rw [map_eq_pure_bind]
  exact hx.bind fun _ ha => gives_pure ha

theorem Gives.guard {c : Prop} [Decidable c] {e : ε} {k : PUnit → ExceptT ε Program α}
    (hk : Gives (k ⟨⟩) R) : Gives (if c then throw e >>= k else k ⟨⟩) R := by
  split
  · exact (gives_true _).bind fun _ _ => hk
  · exact hk

theorem Gives.elseFirst {x : Attempt α} {last : Program Unit} (hx : Gives x R) :
    Gives (x.elseFirst last) R := by
  intro m a
  suffices h : (x.elseFirst last).run.wp (fun r _ _ => r = .ok a → R a) m from h
  rw [Attempt.wp_elseFirst]
  refine wp_mono (hx.wp m) fun r m' es hr => ?_
  cases r with
  | ok b => exact hr a
  | error f => exact wp_of_forall fun _ _ _ h => nomatch h

theorem gives_ofProgram {x : Program (Except ε α)} {failure : ε → Failure}
    (h : ∀ m a, x.value m = .ok a → R a) : Gives (Attempt.ofProgram x failure) R := by
  intro m a
  suffices h : (Attempt.ofProgram x failure).run.wp (fun r _ _ => r = .ok a → R a) m from h
  rw [Attempt.wp_ofProgram]
  have hx : x.wp (fun r _ _ => ∀ a, r = Except.ok a → R a) m := h m
  refine wp_mono hx fun r _ _ hr => ?_
  cases r with
  | ok b => exact fun hb => hr a (by cases hb; rfl)
  | error e => exact fun h => nomatch h

end Program

/-! ## Kinds of requests -/

inductive Request.Kind where
  | file | write | clock | sleep | running | user | log | print | vendor | measure
  deriving DecidableEq

namespace Request

/-- What a request is about. Calls into vendor libraries are of two kinds: a sensor is found
    and let go with one of them, and read with the other. -/
def kind : Request → Kind
  | openFile _ | readFile _ => .file
  | writeFile _ _ => .write
  | now => .clock
  | sleep _ => .sleep
  | running => .running
  | userId => .user
  | log _ _ => .log
  | print _ => .print
  | loadLibrary _ | unloadLibrary _ | hasSymbol _ _ | nvmlInit | nvmlShutdown | nvmlHandle _
  | nvmlName _ _ | diskOpen _ | diskFree _ => .vendor
  | nvmlTemperature _ | diskAwake _ | diskRead _ | diskTemperature _ => .measure

end Request

namespace Program

/-- Every request of the program satisfies `P`, whatever the host answers. -/
def Every (P : Request → Prop) : Program α → Prop
  | done _ => True
  | ask r next => P r ∧ ∀ a, (next a).Every P

/-- Every request of the program is of one of the kinds, whatever the host answers. -/
abbrev Asks (kinds : List Request.Kind) (x : Program α) : Prop := x.Every (·.kind ∈ kinds)

variable {P : Request → Prop}

@[simp] theorem every_done (a : α) : (done a).Every P := trivial

theorem every_pure (a : α) : (pure a : Program α).Every P := trivial

theorem every_request {r : Request} (h : P r) : (request r).Every P := ⟨h, fun _ => trivial⟩

theorem Every.bind {x : Program α} {k : α → Program β} (hx : x.Every P)
    (hk : ∀ a, (k a).Every P) : (x >>= k).Every P := by
  induction x with
  | done a => exact hk a
  | ask r next ih => exact ⟨hx.1, fun a => ih a (hx.2 a)⟩

theorem Every.map {x : Program α} (f : α → β) (hx : x.Every P) : (f <$> x).Every P := by
  rw [map_eq_pure_bind]
  exact hx.bind fun a => every_pure (f a)

theorem Every.mono {x : Program α} {Q : Request → Prop} (hx : x.Every P)
    (h : ∀ r, P r → Q r) : x.Every Q := by
  induction x with
  | done a => exact trivial
  | ask r next ih => exact ⟨h r hx.1, fun a => ih a (hx.2 a)⟩

theorem Asks.mono {x : Program α} {kinds : List Request.Kind} (hx : x.Asks kinds)
    (more : List Request.Kind) (h : kinds ⊆ more) : x.Asks more :=
  Every.mono hx fun _ hr => h hr

/-! ### Programs that may give up -/

theorem Every.run_bind {x : ExceptT ε Program α} {f : α → ExceptT ε Program β}
    (hx : x.run.Every P) (hf : ∀ a, (f a).run.Every P) : (x >>= f).run.Every P := by
  rw [ExceptT.run_bind]
  refine hx.bind fun r => ?_
  cases r with
  | ok a => exact hf a
  | error e => exact every_pure _

theorem Every.run_lift {x : Program α} (hx : x.Every P) :
    (liftM x : ExceptT ε Program α).run.Every P :=
  hx.map Except.ok

theorem Every.run_map {x : ExceptT ε Program α} (f : α → β) (hx : x.run.Every P) :
    (f <$> x).run.Every P := by
  rw [ExceptT.run_map]
  exact hx.map _

theorem every_run_throw (e : ε) : (throw e : ExceptT ε Program α).run.Every P := trivial

theorem every_run_pure (a : α) : (pure a : ExceptT ε Program α).run.Every P := trivial

theorem Every.run_guard {c : Prop} [Decidable c] {e : ε} {k : PUnit → ExceptT ε Program α}
    (hk : (k ⟨⟩).run.Every P) : (if c then throw e >>= k else k ⟨⟩).run.Every P := by
  split
  · exact (every_run_throw e).run_bind fun _ => hk
  · exact hk

theorem Every.run_ofProgram {x : Program (Except ε α)} {failure : ε → Failure}
    (hx : x.Every P) : (Attempt.ofProgram x failure).run.Every P := by
  rw [Attempt.run_ofProgram]
  exact hx.map _

theorem Every.orLog {x : Attempt Unit} {text : Failure → String} (hx : x.run.Every P)
    (hlog : ∀ severity message, P (.log severity message)) : (x.orLog text).Every P := by
  refine hx.bind fun r => ?_
  cases r with
  | ok a => exact every_pure _
  | error f => exact every_request (hlog _ _)

theorem Every.elseFirst {x : Attempt α} {last : Program Unit} (hx : x.run.Every P)
    (hlast : last.Every P) : (x.elseFirst last).run.Every P := by
  refine Every.bind hx fun r => ?_
  cases r with
  | ok a => exact every_pure _
  | error f => exact hlast.bind fun _ => every_pure _

theorem Every.thenAlways {x : Attempt α} {last : Program Unit} (hx : x.run.Every P)
    (hlast : last.Every P) : (x.thenAlways last).run.Every P :=
  Every.bind hx fun _ => hlast.bind fun _ => every_pure _

/-! ### What requests leave alone -/

/-- The trace holds such requests only. -/
theorem Every.trace {x : Program α} (hx : x.Every P) (m : Machine) :
    ∀ e ∈ x.trace m, P e.request := by
  induction x generalizing m with
  | done a => exact fun e he => nomatch he
  | ask r next ih =>
    intro e he
    rcases List.mem_cons.1 he with rfl | he
    · exact hx.1
    · exact ih _ (hx.2 _) _ e he

/-- What only requests of one kind show is not shown by a program that makes none. -/
theorem Asks.filterMap_eq_nil {x : Program α} {kinds : List Request.Kind} {kind : Request.Kind}
    {f : Entry → Option β} (hx : x.Asks kinds) (hkind : kind ∉ kinds)
    (hf : ∀ e : Entry, e.request.kind ≠ kind → f e = none) (m : Machine) :
    (x.trace m).filterMap f = [] := by
  apply List.filterMap_eq_nil_iff.2
  intro e he
  exact hf e fun h => hkind (h ▸ hx.trace m e he)

/-- What holds between a machine and itself, and is kept by every such request, holds
    between a machine and the one after the program. -/
theorem Every.after_rel {x : Program α} (hx : x.Every P) {Rel : Machine → Machine → Prop}
    (refl : ∀ m, Rel m m) (trans : ∀ m₁ m₂ m₃, Rel m₁ m₂ → Rel m₂ m₃ → Rel m₁ m₃)
    (step : ∀ m (r : Request), P r → Rel m (m.serve r).2) (m : Machine) :
    Rel m (x.after m) := by
  induction x generalizing m with
  | done a => exact refl m
  | ask r next ih => exact trans _ _ _ (step m r hx.1) (ih _ (hx.2 _) _)

end Program

end Cooling
