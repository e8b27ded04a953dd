-- SUMMARY: What a driver holds of a vendor library from its first call to its last, and which calls it makes meanwhile.
import Cooling.Proofs.Sensors

/-!
# Lifecycles

A driver loads a library, gets hold of one thing in it (a session or a disk), and gives
back what it holds in the reverse order. `Phase` says how far a driver is, and
`Phase.Step` which calls it makes then and what they come to.

`Program.Follows` is a calculus of phases: whatever the host answers, the calls of a
program lead from one phase to the next. It says for every function of the drivers
what that function leaves behind, on success and on failure.
-/

namespace Cooling

open Program

/-! ## Handles -/

/-- What a call into the system or a vendor library gets hold of. -/
inductive Handle where
  | library (name : String)
  | session
  | disk (path : String)
  deriving DecidableEq, Repr

/-- What an answered request gets hold of. -/
def Handle.ofAnswer? : (r : Request) → r.Answer → Option Handle
  | .loadLibrary name, .ok _ => some (.library name)
  | .nvmlInit, code => if (code : Nat) = 0 then some .session else none
  | .diskOpen path, reply => if 0 ≤ reply.code ∧ reply.value = true then some (.disk path) else none
  | _, _ => none

namespace Request

/-- The handle that a request gives back, whatever the answer is. -/
def gives? : Request → Option Handle
  | unloadLibrary name => some (.library name)
  | nvmlShutdown => some .session
  | diskFree path => some (.disk path)
  | _ => none

/-- The handle that a request is about. -/
def uses? : Request → Option Handle
  | hasSymbol library _ => some (.library library)
  | nvmlHandle _ | nvmlName _ _ | nvmlTemperature _ => some .session
  | diskAwake path | diskRead path | diskTemperature path => some (.disk path)
  | r => r.gives?

/-- The request asks for something in a library that is loaded. -/
def opens : Request → Bool
  | nvmlInit | diskOpen _ => true
  | _ => false

/-- The request may get hold of something. -/
def takes : Request → Bool
  | loadLibrary _ => true
  | r => r.opens

end Request

/-- The handles that requests got hold of. -/
def takenIn (es : List Entry) : List Handle :=
  es.filterMap fun e => Handle.ofAnswer? e.request e.answer

/-- The handles that requests gave back. -/
def givenIn (es : List Entry) : List Handle := es.filterMap (·.request.gives?)

@[simp] theorem takenIn_append (es fs : List Entry) :
    takenIn (es ++ fs) = takenIn es ++ takenIn fs := List.filterMap_append

@[simp] theorem givenIn_append (es fs : List Entry) :
    givenIn (es ++ fs) = givenIn es ++ givenIn fs := List.filterMap_append

/-! ## Phases -/

/-- How far a driver is. -/
inductive Phase where
  /-- No library is loaded yet. -/
  | fresh
  | loaded (library : String)
  | inSession (library : String)
  | onDisk (library path : String)
  /-- Only the library is held, and nothing more is asked of it. -/
  | finished (library : String)
  /-- The library is unloaded. -/
  | unloaded
  deriving DecidableEq, Repr

namespace Phase

/-- What a driver holds. -/
def handles : Phase → List Handle
  | fresh | unloaded => []
  | loaded library | finished library => [.library library]
  | inSession library => [.library library, .session]
  | onDisk library path => [.library library, .disk path]

/-- Nothing is held. -/
def Idle (p : Phase) : Prop := p = fresh ∨ p = unloaded

/-- Only a library is held. -/
def Bare (library : String) (p : Phase) : Prop := p = loaded library ∨ p = finished library

/-- Nothing was asked for in a library yet. -/
def early : Phase → Bool
  | fresh | loaded _ => true
  | _ => false

theorem Idle.handles {p : Phase} (h : p.Idle) : p.handles = [] := by
  rcases h with rfl | rfl <;> rfl

/-- The request leaves what is held as it is, and is about nothing else. -/
structure Allows (p : Phase) (r : Request) : Prop where
  takes : r.takes = false
  gives : r.gives? = none
  uses : ∀ handle, r.uses? = some handle → handle ∈ p.handles

/-- The calls of a driver: in which phase it makes a request, and in which phase it is
    after the answer. -/
inductive Step : Phase → (r : Request) → r.Answer → Phase → Prop
  | stays {p : Phase} {r : Request} (h : p.Allows r) (a : r.Answer) : Step p r a p
  | load (name : String) (a : Unit) : Step fresh (.loadLibrary name) (.ok a) (loaded name)
  | notLoaded (name : String) (e : Option String) :
      Step fresh (.loadLibrary name) (.error e) fresh
  | start {library : String} {code : Nat} (h : code = 0) :
      Step (loaded library) .nvmlInit code (inSession library)
  | notStarted {library : String} {code : Nat} (h : code ≠ 0) :
      Step (loaded library) .nvmlInit code (finished library)
  | acquire {library path : String} {reply : DiskReply Bool}
      (h : 0 ≤ reply.code ∧ reply.value = true) :
      Step (loaded library) (.diskOpen path) reply (onDisk library path)
  | notAcquired {library path : String} {reply : DiskReply Bool}
      (h : ¬(0 ≤ reply.code ∧ reply.value = true)) :
      Step (loaded library) (.diskOpen path) reply (finished library)
  | shutdown {library : String} (code : Nat) :
      Step (inSession library) .nvmlShutdown code (finished library)
  | free {library path : String} (a : Unit) :
      Step (onDisk library path) (.diskFree path) a (finished library)
  | unload {p : Phase} {library : String} (h : p.Bare library) (a : Unit) :
      Step p (.unloadLibrary library) a unloaded

namespace Step

variable {p q : Phase} {r : Request} {a : r.Answer}

/-- What is held after a call is what was held before it and what it got hold of, without
    what it gave back. -/
theorem balance (h : Step p r a q) (handle : Handle) :
    (Handle.ofAnswer? r a).toList.count handle + p.handles.count handle =
      r.gives?.toList.count handle + q.handles.count handle := by
  cases h with
  | stays h a =>
    have htakes : Handle.ofAnswer? r a = none := by
      have hr := h.takes
      cases r <;> first | rfl | cases hr
    rw [htakes, h.gives]
  | load name a => simp [Handle.ofAnswer?, Request.gives?, handles]
  | notLoaded name e => rfl
  | start h => simp [Handle.ofAnswer?, Request.gives?, handles, h, List.count_cons]
  | notStarted h => simp [Handle.ofAnswer?, Request.gives?, handles, h]
  | acquire h => simp [Handle.ofAnswer?, Request.gives?, handles, h, List.count_cons]
  | notAcquired h => simp [Handle.ofAnswer?, Request.gives?, handles, h]
  | shutdown code => simp [Handle.ofAnswer?, Request.gives?, handles, List.count_cons]
  | free a => simp [Handle.ofAnswer?, Request.gives?, handles, List.count_cons]
  | unload h a => rcases h with rfl | rfl <;> simp [Handle.ofAnswer?, Request.gives?, handles]

/-- A call is about a handle only while it is held. -/
theorem uses (h : Step p r a q) {handle : Handle} (hr : r.uses? = some handle) :
    handle ∈ p.handles := by
  cases h with
  | stays h a => exact h.uses handle hr
  | shutdown code => cases hr; exact .tail _ (.head _)
  | free a => cases hr; exact .tail _ (.head _)
  | unload h a => rcases h with rfl | rfl <;> (cases hr; exact .head _)
  | _ => cases hr

/-- A library is unloaded last. -/
theorem last (h : Step p r a q) {name : String} (hr : r = .unloadLibrary name) :
    p.handles = [.library name] := by
  cases h with
  | stays h a => rw [hr] at h; exact nomatch h.gives
  | unload h a => cases hr; rcases h with rfl | rfl <;> rfl
  | _ => cases hr

/-- A driver asks for something in its library once. -/
theorem opens_le (h : Step p r a q) : r.opens.toNat + q.early.toNat ≤ p.early.toNat := by
  cases h with
  | stays h a =>
    have hr : r.opens = false := by
      have htakes := h.takes
      cases r <;> first | rfl | exact htakes
    simp [hr]
  | unload h a => rcases h with rfl | rfl <;> simp [Request.opens, early]
  | _ => simp [Request.opens, early]

/-- What is given back is held no more, and nothing more is taken after that. -/
theorem gives (h : Step p r a q) {handle : Handle} (hr : r.gives? = some handle) :
    q.early = false ∧ handle ∉ q.handles := by
  cases h with
  | stays h a => exact nomatch h.gives.symm.trans hr
  | shutdown code => cases hr; exact ⟨rfl, by simp [handles]⟩
  | free a => cases hr; exact ⟨rfl, by simp [handles]⟩
  | unload h a => exact ⟨rfl, nofun⟩
  | _ => cases hr

theorem shrinks (h : Step p r a q) (hp : p.early = false) :
    q.early = false ∧ ∀ handle ∈ q.handles, handle ∈ p.handles := by
  cases h with
  | stays h a => exact ⟨hp, fun _ => id⟩
  | shutdown code => exact ⟨rfl, by simp [handles]⟩
  | free a => exact ⟨rfl, by simp [handles]⟩
  | unload h a => exact ⟨rfl, nofun⟩
  | _ => cases hp

end Step

/-! ## Runs -/

/-- The calls of a driver from one phase to another. -/
inductive Run : Phase → List Entry → Phase → Prop
  | nil (p : Phase) : Run p [] p
  | cons {p q s : Phase} {e : Entry} {es : List Entry} (h : Step p e.request e.answer q)
      (rest : Run q es s) : Run p (e :: es) s

namespace Run

variable {p q s : Phase} {es fs : List Entry}

theorem append (h : Run p es q) (h' : Run q fs s) : Run p (es ++ fs) s := by
  induction h with
  | nil p => exact h'
  | cons h rest ih => exact .cons h (ih h')

theorem split (h : Run p (es ++ fs) s) : ∃ q, Run p es q ∧ Run q fs s := by
  induction es generalizing p with
  | nil => exact ⟨p, .nil p, h⟩
  | cons e es ih =>
    cases h with
    | cons h rest =>
      obtain ⟨q, hes, hfs⟩ := ih rest
      exact ⟨q, .cons h hes, hfs⟩

/-- What was taken is what was given back and what is held. -/
theorem balance (h : Run p es q) (handle : Handle) :
    (takenIn es).count handle + p.handles.count handle =
      (givenIn es).count handle + q.handles.count handle := by
  induction h with
  | nil p => rfl
  | @cons p q s e es h rest ih =>
    have hstep := h.balance handle
    have htaken : takenIn (e :: es) =
        (Handle.ofAnswer? e.request e.answer).toList ++ takenIn es := by
      unfold takenIn
      rw [List.filterMap_cons]
      cases Handle.ofAnswer? e.request e.answer <;> rfl
    have hgiven : givenIn (e :: es) = e.request.gives?.toList ++ givenIn es := by
      unfold givenIn
      rw [List.filterMap_cons]
      cases e.request.gives? <;> rfl
    rw [htaken, hgiven, List.count_append, List.count_append]
    omega

theorem opens_le (h : Run p es q) :
    es.countP (·.request.opens) + q.early.toNat ≤ p.early.toNat := by
  induction h with
  | nil p => simp
  | @cons p q s e es h rest ih =>
    have hstep := h.opens_le
    rw [List.countP_cons]
    cases hopens : e.request.opens
    · simp only [hopens, Bool.toNat_false] at hstep ⊢
      simp only [Bool.false_eq_true, if_false]
      omega
    · simp only [hopens, Bool.toNat_true] at hstep ⊢
      simp only [if_true]
      omega

/-- What a driver does not hold when it takes nothing more, it does not use. -/
theorem unused (h : Run p es q) (hp : p.early = false) {handle : Handle}
    (hhandle : handle ∉ p.handles) : ∀ e ∈ es, e.request.uses? ≠ some handle := by
  induction h with
  | nil p => exact nofun
  | cons h rest ih =>
    obtain ⟨hq, hsub⟩ := h.shrinks hp
    refine List.forall_mem_cons.2 ⟨fun huses => hhandle (h.uses huses), ?_⟩
    exact ih hq fun hmem => hhandle (hsub _ hmem)

end Run

theorem allows_of_kind (p : Phase) {r : Request} (hvendor : r.kind ≠ .vendor)
    (hmeasure : r.kind ≠ .measure) : p.Allows r := by
  cases r <;> first
    | exact absurd rfl hvendor | exact absurd rfl hmeasure | exact ⟨rfl, rfl, nofun⟩

theorem allows_log (p : Phase) (severity : Severity) (message : String) :
    p.Allows (.log severity message) := p.allows_of_kind nofun nofun

end Phase

/-! ## Programs that follow a lifecycle -/

namespace Program

variable {p q : Phase}

/-- Whatever the host answers, the calls of the program lead from the phase to one of
    which the postcondition holds, together with the value. -/
def Follows : Program α → Phase → (α → Phase → Prop) → Prop
  | done a, p, Q => Q a p
  | ask r next, p, Q => ∀ a, ∃ q, p.Step r a q ∧ (next a).Follows q Q

/-- A postcondition of what may give up: one for its value, and one for its failure. -/
def Ends (R : α → Phase → Prop) (F : Phase → Prop) : Except ε α → Phase → Prop
  | .ok a, q => R a q
  | .error _, q => F q

variable {Q R : α → Phase → Prop} {S : β → Phase → Prop} {F G : Phase → Prop}

theorem follows_pure {a : α} (h : Q a p) : (pure a : Program α).Follows p Q := h

theorem follows_request {r : Request} {Q : r.Answer → Phase → Prop}
    (h : ∀ a, ∃ q, p.Step r a q ∧ Q a q) : (request r).Follows p Q := h

theorem Follows.bind {x : Program α} {k : α → Program β} (hx : x.Follows p Q)
    (hk : ∀ a q, Q a q → (k a).Follows q S) : (x >>= k).Follows p S := by
  induction x generalizing p with
  | done a => exact hk a p hx
  | ask r next ih =>
    intro a
    obtain ⟨q, hstep, hrest⟩ := hx a
    exact ⟨q, hstep, ih a hrest⟩

theorem Follows.mono {x : Program α} (hx : x.Follows p Q) (h : ∀ a q, Q a q → R a q) :
    x.Follows p R := by
  induction x generalizing p with
  | done a => exact h a p hx
  | ask r next ih =>
    intro a
    obtain ⟨q, hstep, hrest⟩ := hx a
    exact ⟨q, hstep, ih a hrest⟩

theorem Follows.map {x : Program α} {f : α → β} (hx : x.Follows p fun a q => S (f a) q) :
    (f <$> x).Follows p S := by
  rw [map_eq_pure_bind]
  exact hx.bind fun _ _ h => follows_pure h

/-- Calls that leave what is held as it is stay in their phase. -/
theorem Every.follows {x : Program α} (hx : x.Every p.Allows) : x.Follows p fun _ q => q = p := by
  induction x with
  | done a => exact rfl
  | ask r next ih => exact fun a => ⟨p, .stays hx.1 a, ih a (hx.2 a)⟩

/-- Messages can be logged in every phase. -/
theorem log_follows (severity : Severity) (message : String) :
    (Program.log severity message).Follows p fun _ q => q = p :=
  Every.follows (every_request (p.allows_log severity message))

/-- What a program that follows a lifecycle does on a machine. -/
theorem Follows.trace {x : Program α} (hx : x.Follows p Q) (m : Machine) :
    ∃ q, p.Run (x.trace m) q ∧ Q (x.value m) q := by
  induction x generalizing p m with
  | done a => exact ⟨p, .nil p, hx⟩
  | ask r next ih =>
    obtain ⟨q, hstep, hrest⟩ := hx (m.serve r).1
    obtain ⟨s, hrun, hvalue⟩ := ih _ hrest (m.serve r).2
    exact ⟨s, .cons (e := m.entry r) hstep hrun, hvalue⟩

/-! ### Programs that may give up -/

theorem Follows.ends {x : Program (Except ε α)} (hx : x.Follows p fun _ q => F q)
    (hR : ∀ a q, F q → R a q) (hG : ∀ q, F q → G q) : x.Follows p (Ends R G) := by
  apply hx.mono
  intro r q hq
  cases r with
  | ok a => exact hR a q hq
  | error e => exact hG q hq

theorem Follows.run_bind {x : ExceptT ε Program α} {f : α → ExceptT ε Program β}
    (hx : x.run.Follows p (Ends R F)) (hf : ∀ a q, R a q → (f a).run.Follows q (Ends S F)) :
    (x >>= f).run.Follows p (Ends S F) := by
  rw [ExceptT.run_bind]
  apply hx.bind
  intro r q hr
  cases r with
  | ok a => exact hf a q hr
  | error e => exact follows_pure hr

theorem Follows.run_lift {x : Program α} (hx : x.Follows p R) :
    (liftM x : ExceptT ε Program α).run.Follows p (Ends R F) := Follows.map hx

theorem Follows.run_map {x : ExceptT ε Program α} {f : α → β}
    (hx : x.run.Follows p (Ends (fun a q => S (f a) q) F)) :
    (f <$> x).run.Follows p (Ends S F) := by
  rw [map_eq_pure_bind]
  exact hx.run_bind fun _ _ h => h

theorem follows_run_pure {a : α} (h : R a p) :
    (pure a : ExceptT ε Program α).run.Follows p (Ends R F) := h

theorem follows_run_throw {e : ε} (h : F p) :
    (throw e : ExceptT ε Program α).run.Follows p (Ends R F) := h

theorem Follows.run_guard {c : Prop} [Decidable c] {e : ε} {k : PUnit → ExceptT ε Program α}
    (hthrow : c → F p) (hk : ¬c → (k ⟨⟩).run.Follows p (Ends R F)) :
    (if c then throw e >>= k else k ⟨⟩).run.Follows p (Ends R F) := by
  split
  · rename_i hc
    exact hthrow hc
  · rename_i hc
    exact hk hc

theorem Follows.run_ofProgram {x : Program (Except ε α)} {failure : ε → Failure}
    (hx : x.Follows p (Ends R F)) : (Attempt.ofProgram x failure).run.Follows p (Ends R F) := by
  rw [Attempt.run_ofProgram]
  apply Follows.map
  apply hx.mono
  intro r q hr
  cases r <;> exact hr

theorem Follows.orLog {x : Attempt Unit} {text : Failure → String}
    (hx : x.run.Follows p fun _ q => F q) : (x.orLog text).Follows p fun _ q => F q := by
  apply Follows.bind hx
  intro r q hq
  cases r with
  | ok a => exact follows_pure hq
  | error f => exact follows_request fun a => ⟨q, .stays (q.allows_log _ _) a, hq⟩

theorem Follows.elseFirst {x : Attempt α} {last : Program Unit} (hx : x.run.Follows p (Ends R F))
    (hlast : ∀ q, F q → last.Follows q fun _ q' => G q') :
    (x.elseFirst last).run.Follows p (Ends R G) := by
  apply Follows.bind hx
  intro r q hr
  cases r with
  | ok a => exact follows_pure hr
  | error f => exact (hlast q hr).bind fun _ q' hq' => follows_pure hq'

theorem Follows.thenAlways {x : Attempt α} {last : Program Unit}
    (hx : x.run.Follows p fun _ q => F q) (hlast : ∀ q, F q → last.Follows q fun _ q' => G q') :
    (x.thenAlways last).run.Follows p fun _ q => G q := by
  apply Follows.bind hx
  intro r q hq
  exact (hlast q hq).bind fun _ q' hq' => follows_pure hq'

end Program

/-! ## Libraries -/

namespace Library

theorem load_follows (name : String) :
    (load name).run.Follows .fresh
      (Ends (fun library q => q = .loaded library.name) (· = .fresh)) := by
  unfold load
  apply Follows.run_guard
  · exact fun _ => rfl
  intro _
  have hload : (request (.loadLibrary name)).Follows .fresh
      (Ends (fun _ q => q = .loaded name) (· = .fresh)) := by
    apply follows_request
    intro a
    cases a with
    | ok u => exact ⟨_, .load name u, rfl⟩
    | error e => exact ⟨_, .notLoaded name e, rfl⟩
  apply (Follows.run_ofProgram hload).run_bind
  rintro _ _ rfl
  apply (Follows.run_lift (log_follows _ _)).run_bind
  rintro _ _ rfl
  exact follows_run_pure rfl

theorem loadFirst_follows (failed : Failure) (names : List String) :
    (loadFirst failed names).run.Follows .fresh
      (Ends (fun library q => q = .loaded library.name) (· = .fresh)) := by
  induction names generalizing failed with
  | nil => exact follows_run_throw rfl
  | cons name names ih =>
    apply Follows.bind (load_follows name)
    intro r q hr
    cases r with
    | ok library => exact follows_pure hr
    | error f =>
      obtain rfl : q = .fresh := hr
      exact ih f

theorem loadAny_follows (names : List String) :
    (loadAny names).run.Follows .fresh
      (Ends (fun library q => q = .loaded library.name) Phase.Idle) := by
  apply (loadFirst_follows noNames names).mono
  intro r q hr
  cases r with
  | ok library => exact hr
  | error f => exact .inl hr

theorem requireAll_follows (library : Library) (missing : String → Failure)
    (symbols : List String) :
    (library.requireAll missing symbols).run.Follows (.loaded library.name)
      (Ends (fun _ q => q = .loaded library.name) (Phase.Bare library.name)) := by
  have hsymbol : ∀ symbol, (Phase.loaded library.name).Allows (.hasSymbol library.name symbol) :=
    fun _ => ⟨rfl, rfl, by rintro _ ⟨⟩; exact .head _⟩
  have hrequire := every_requireAll hsymbol (Phase.allows_log _) missing symbols
  exact hrequire.follows.ends (fun _ _ h => h) fun _ h => .inl h

theorem unload_follows (library : Library) {p : Phase} (h : p.Bare library.name) :
    library.unload.Follows p fun _ q => q = .unloaded := by
  have hunload : (request (.unloadLibrary library.name)).Follows p fun _ q => q = .unloaded :=
    follows_request fun a => ⟨_, .unload h a, rfl⟩
  apply hunload.bind
  rintro _ _ rfl
  exact log_follows _ _

end Library

/-! ## Disks -/

namespace SmartDisk

theorem acquireIn_follows (library : Library) (path : String) :
    (acquireIn library path).run.Follows (.loaded library.name)
      (Ends (fun disk q => q = .onDisk disk.library.name disk.path)
        (Phase.Bare library.name)) := by
  apply (library.requireAll_follows _ _).run_bind
  rintro _ _ rfl
  apply Follows.run_guard
  · exact fun _ => .inl rfl
  intro _
  have hopen : (request (.diskOpen path)).Follows (.loaded library.name) fun reply q =>
      q = if 0 ≤ reply.code ∧ reply.value = true then .onDisk library.name path
        else .finished library.name := by
    apply follows_request
    intro reply
    split
    · rename_i hopened
      exact ⟨_, .acquire hopened, rfl⟩
    · rename_i hfailed
      exact ⟨_, .notAcquired hfailed, rfl⟩
  apply (Follows.run_lift hopen).run_bind
  rintro reply _ rfl
  apply Follows.run_guard
  · intro hfailed
    rw [if_neg (by rintro ⟨hcode, hvalue⟩; simp [hvalue] at hfailed; omega)]
    exact .inr rfl
  · intro hopened
    rw [if_pos (by simpa using hopened)]
    apply (Follows.run_lift (log_follows _ _)).run_bind
    rintro _ _ rfl
    exact follows_run_pure rfl

theorem acquire_follows (path : String) :
    (acquire path).run.Follows .fresh
      (Ends (fun disk q => q = .onDisk disk.library.name disk.path) Phase.Idle) := by
  apply (Library.loadAny_follows libraryNames).run_bind
  rintro library _ rfl
  apply Follows.elseFirst (acquireIn_follows library path)
  intro q hq
  exact (library.unload_follows hq).mono fun _ _ => .inr

theorem close_follows (disk : SmartDisk) :
    disk.close.Follows (.onDisk disk.library.name disk.path) fun _ q => q = .unloaded := by
  have hfree : (request (.diskFree disk.path)).Follows (.onDisk disk.library.name disk.path)
      fun _ q => q = .finished disk.library.name :=
    follows_request fun a => ⟨_, .free a, rfl⟩
  apply hfree.bind
  rintro _ _ rfl
  apply (log_follows _ _).bind
  rintro _ _ rfl
  exact disk.library.unload_follows (.inr rfl)

end SmartDisk

/-! ## Sessions -/

namespace NvmlSession

variable {session : NvmlSession}

theorem startIn_follows (library : Library) :
    (startIn library).run.Follows (.loaded library.name)
      (Ends (fun session q => session.initialized = true ∧ q = .inSession session.library.name)
        (Phase.Bare library.name)) := by
  apply (library.requireAll_follows _ _).run_bind
  rintro _ _ rfl
  have hinit : (request .nvmlInit).Follows (.loaded library.name) fun code q =>
      q = if (code : Nat) = 0 then .inSession library.name else .finished library.name := by
    apply follows_request
    intro code
    split
    · rename_i hstarted
      exact ⟨_, .start hstarted, rfl⟩
    · rename_i hfailed
      exact ⟨_, .notStarted hfailed, rfl⟩
  apply (Follows.run_lift hinit).run_bind
  rintro code _ rfl
  apply Follows.run_guard
  · intro hfailed
    rw [if_neg hfailed]
    exact .inr rfl
  · intro hstarted
    rw [if_pos (not_not.1 hstarted)]
    apply (Follows.run_lift (log_follows _ _)).run_bind
    rintro _ _ rfl
    exact follows_run_pure ⟨rfl, rfl⟩

theorem start_follows :
    start.run.Follows .fresh
      (Ends (fun session q => session.initialized = true ∧ q = .inSession session.library.name)
        Phase.Idle) := by
  apply (Follows.run_ofProgram (Library.loadAny_follows libraryNames)).run_bind
  rintro library _ rfl
  apply Follows.elseFirst (startIn_follows library)
  intro q hq
  exact (library.unload_follows hq).mono fun _ _ => .inr

/-- Whatever the library answers, the session is over. -/
theorem shutdown_follows (h : session.initialized = true) :
    session.shutdown.run.Follows (.inSession session.library.name) fun _ q =>
      q = .finished session.library.name := by
  unfold shutdown
  rw [if_pos h]
  have hshutdown : (request .nvmlShutdown).Follows (.inSession session.library.name) fun _ q =>
      q = .finished session.library.name :=
    follows_request fun code => ⟨_, .shutdown code, rfl⟩
  suffices hends : Follows _ _ (Ends (fun _ q => q = .finished session.library.name)
      (· = .finished session.library.name)) by
    apply hends.mono
    intro r q hr
    cases r <;> exact hr
  apply (Follows.run_lift hshutdown).run_bind
  rintro code _ rfl
  apply Follows.run_guard
  · exact fun _ => rfl
  · exact fun _ => Follows.run_lift (log_follows _ _)

theorem drop_follows (h : session.initialized = true) :
    session.drop.Follows (.inSession session.library.name) fun _ q => q = .unloaded := by
  apply (Follows.orLog (shutdown_follows h)).bind
  rintro _ _ rfl
  exact session.library.unload_follows (.inr rfl)

/-- A session that is ended only unloads its library. -/
theorem drop_ended_follows (session : NvmlSession) :
    session.ended.drop.Follows (.finished session.library.name) fun _ q => q = .unloaded := by
  have hshutdown : session.ended.shutdown.run.Follows (.finished session.library.name) fun _ q =>
      q = .finished session.library.name := follows_pure rfl
  apply (Follows.orLog hshutdown).bind
  rintro _ _ rfl
  exact session.library.unload_follows (.inr rfl)

end NvmlSession

/-! ## Sensors -/

namespace Sensor

/-- What a sensor holds. -/
def handles : Sensor → List Handle
  | disk s => [.library s.disk.library.name, .disk s.disk.path]
  | gpu s =>
    match s.backend? with
    | some (session, _) => [.library session.library.name, .session]
    | none => []
  | _ => []

/-- The phase is one in which the sensor can be read, shut down and let go. -/
def InPhase : Sensor → Phase → Prop
  | disk s, p => p = .onDisk s.disk.library.name s.disk.path
  | gpu s, p =>
    match s.backend? with
    | some (session, _) => session.initialized = true ∧ p = .inSession session.library.name
    | none => p.Idle
  | _, p => p.Idle

variable {s : Sensor} {p : Phase}

theorem inPhase_gpu_none {s : GpuSensor} (hbackend : s.backend? = none) :
    (gpu s).InPhase p ↔ p.Idle := by
  simp only [InPhase, hbackend]

theorem inPhase_gpu_some {s : GpuSensor} {session : NvmlSession} {device : NvmlDevice}
    (hbackend : s.backend? = some (session, device)) :
    (gpu s).InPhase p ↔ session.initialized = true ∧ p = .inSession session.library.name := by
  simp only [InPhase, hbackend]

theorem InPhase.handles_eq (h : s.InPhase p) : p.handles = s.handles := by
  cases s with
  | disk s =>
    obtain rfl := h
    rfl
  | gpu s =>
    cases hbackend : s.backend? with
    | none =>
      rw [inPhase_gpu_none hbackend] at h
      simp only [handles, hbackend, h.handles]
    | some backend =>
      obtain ⟨-, rfl⟩ := (inPhase_gpu_some hbackend).1 h
      simp only [handles, hbackend, Phase.handles]
  | _ => exact Phase.Idle.handles h

theorem InPhase.allows (h : s.InPhase p) {r : Request} (hr : s.Reads r) : p.Allows r := by
  cases s with
  | disk s =>
    obtain rfl := h
    cases r with
    | diskAwake | diskRead | diskTemperature =>
      obtain rfl := hr
      exact ⟨rfl, rfl, by rintro _ ⟨⟩; exact .tail _ (.head _)⟩
    | _ => exact hr.elim
  | gpu s =>
    cases r with
    | nvmlTemperature bus =>
      obtain ⟨session, device, hbackend, -, -⟩ := hr
      obtain ⟨-, rfl⟩ := (inPhase_gpu_some hbackend).1 h
      exact ⟨rfl, rfl, by rintro _ ⟨⟩; exact .tail _ (.head _)⟩
    | _ => exact hr.elim
  | _ =>
    cases r with
    | readFile path => exact ⟨rfl, rfl, nofun⟩
    | _ => exact hr.elim

/-- Reading a sensor leaves what it holds as it is. -/
theorem read_follows (h : s.InPhase p) : s.read.Follows p fun _ q => q = p :=
  Every.follows (Every.mono s.reads_read fun _ => h.allows)

/-- Only a session is ended by shutting a sensor down, and with it the library is let go. -/
theorem shutdown_follows (h : s.InPhase p) :
    s.shutdown.run.Follows p fun _ q => s.ended.InPhase q := by
  cases s with
  | gpu s =>
    change (GpuSensor.shutdown s).run.Follows p fun _ q => (gpu s.ended).InPhase q
    unfold GpuSensor.shutdown
    cases hbackend : s.backend? with
    | none => exact follows_pure ((inPhase_gpu_none hbackend).1 h)
    | some backend =>
      obtain ⟨session, device⟩ := backend
      obtain ⟨hsession, rfl⟩ := (inPhase_gpu_some hbackend).1 h
      apply Follows.thenAlways (NvmlSession.shutdown_follows hsession)
      rintro _ rfl
      exact session.drop_ended_follows.mono fun _ _ hq => .inr hq
  | _ => exact follows_pure h

theorem release_follows (h : s.InPhase p) : s.release.Follows p fun _ q => q.Idle := by
  cases s with
  | disk s =>
    obtain rfl := h
    exact s.disk.close_follows.mono fun _ _ => .inr
  | gpu s => exact Follows.orLog (F := Phase.Idle) (shutdown_follows (s := gpu s) h)
  | _ => exact follows_pure h

/-- Corrections are no matter of what a sensor holds. -/
theorem correct_follows (h : s.InPhase p) (corrections : List Int) :
    (s.correct corrections).run.Follows p (Ends InPhase s.InPhase) := by
  have hbase : (s.base.correct corrections).run.Follows p (Ends (fun _ => s.InPhase) s.InPhase) :=
    (Every.follows (s.base.every_correct p.allows_log corrections)).ends
      (fun _ _ hq => hq ▸ h) fun _ hq => hq ▸ h
  apply hbase.run_bind
  intro base q hq
  apply follows_run_pure
  cases s <;> exact hq

end Sensor

/-! ## Building sensors -/

/-- A program that calls no vendor library stays in its phase. -/
theorem Program.Asks.follows {x : Program α} {kinds : List Request.Kind} (hx : x.Asks kinds)
    (hvendor : .vendor ∉ kinds) (hmeasure : .measure ∉ kinds) (p : Phase) :
    x.Follows p fun _ q => q = p :=
  Every.follows <| Every.mono hx fun _ hr =>
    p.allows_of_kind (fun h => hvendor (h ▸ hr)) fun h => hmeasure (h ▸ hr)

theorem DiskSensor.find_follows (path : String) :
    (find path).run.Follows .fresh
      (Ends (fun sensor => (Sensor.disk sensor).InPhase) Phase.Idle) :=
  (SmartDisk.acquire_follows path).run_bind fun _ _ hq => follows_run_pure hq

theorem GpuSensor.find_follows (bus : String) :
    (find bus).run.Follows .fresh
      (Ends (fun sensor => (Sensor.gpu sensor).InPhase) Phase.Idle) := by
  apply NvmlSession.start_follows.run_bind
  rintro session _ ⟨hsession, rfl⟩
  have hallows : ∀ {r : Request}, r.takes = false → r.gives? = none → r.uses? = some .session →
      (Phase.inSession session.library.name).Allows r := by
    intro r htakes hgives huses
    refine ⟨htakes, hgives, fun handle hr => ?_⟩
    obtain rfl : .session = handle := Option.some.inj (huses.symm.trans hr)
    exact .tail _ (.head _)
  have hdevice : (session.device bus).run.Follows (.inSession session.library.name)
      (Ends (fun _ q => q = .inSession session.library.name)
        (· = .inSession session.library.name)) :=
    (Every.follows (session.every_device (hallows rfl rfl rfl))).ends (fun _ _ h => h) fun _ h => h
  apply Follows.run_bind (Follows.elseFirst (G := Phase.Idle) hdevice ?_)
  · rintro device _ rfl
    have hannounce :
        (announce session device).Every (Phase.inSession session.library.name).Allows :=
      every_announce (hallows rfl rfl rfl) (Phase.allows_log _) session
    apply (Follows.run_lift (Every.follows hannounce)).run_bind
    rintro _ _ rfl
    exact follows_run_pure ⟨hsession, rfl⟩
  · rintro _ rfl
    exact (NvmlSession.drop_follows hsession).mono fun _ _ => .inr

namespace Config

theorem findSensor_follows (dndDisk : Bool) (spec : SensorSpec) :
    (findSensor dndDisk spec).run.Follows .fresh (Ends Sensor.InPhase Phase.Idle) := by
  unfold findSensor
  split
  · apply Follows.run_map
    have hfind : (HwmonSensor.find spec.path).run.Asks [.file] :=
      (SensorBase.asks_find spec.path).run_bind fun _ => every_run_pure _
    exact (hfind.follows (by decide) (by decide) _).ends (fun _ _ => .inl) fun _ => .inl
  · apply Follows.run_map
    have hfind := ThermalSensor.asks_find spec.path
    exact (hfind.follows (by decide) (by decide) _).ends (fun _ _ => .inl) fun _ => .inl
  · exact (DiskSensor.find_follows spec.path).run_bind fun _ _ hq => follows_run_pure hq
  · exact (GpuSensor.find_follows spec.path).run_map

/-- A sensor that is built can be used, and one that is not built holds nothing. -/
theorem buildSensor_follows (dndDisk : Bool) (spec : SensorSpec) :
    (buildSensor dndDisk spec).run.Follows .fresh (Ends Sensor.InPhase Phase.Idle) := by
  apply (findSensor_follows dndDisk spec).run_bind
  intro sensor q hq
  split
  · exact follows_run_pure hq
  · exact Follows.elseFirst (Sensor.correct_follows hq _) fun _ => Sensor.release_follows

end Config

end Cooling
