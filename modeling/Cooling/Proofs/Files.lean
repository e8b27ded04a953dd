-- SUMMARY: What becomes of the files of a machine: what changes from outside make of them, which ones a program opens for writing, and what it leaves in them.
import Cooling.Proofs.Writes

/-!
# Files

Files are changed from outside, and by the writes of a program. A write changes its
file once that is open: opening it empties it, and then the contents are written. No
other request changes a file, and none creates or removes one. So a program leaves
every file that it did not open for writing as the changes from outside alone would
leave it.
-/

namespace Cooling

open Program

/-! ## Values under other names -/

/-- The same names have values, and only the values under some of them may differ. -/
structure Registry.SameBut (names : List String) (r r' : Registry α) : Prop where
  isSome_eq : ∀ name, (r'.get? name).isSome = (r.get? name).isSome
  get?_eq : ∀ name, name ∉ names → r'.get? name = r.get? name

namespace Registry.SameBut

variable {names : List String} {r r₁ r₂ r₃ : Registry α}

theorem refl (names : List String) (r : Registry α) : SameBut names r r :=
  ⟨fun _ => rfl, fun _ _ => rfl⟩

theorem trans {names' : List String} (h : SameBut names r₁ r₂) (h' : SameBut names' r₂ r₃) :
    SameBut (names ++ names') r₁ r₃ := by
  constructor
  · intro name
    rw [h'.isSome_eq, h.isSome_eq]
  · intro name hname
    rw [List.mem_append, not_or] at hname
    rw [h'.get?_eq name hname.2, h.get?_eq name hname.1]

theorem mono {more : List String} (h : SameBut names r₁ r₂) (hsub : names ⊆ more) :
    SameBut more r₁ r₂ :=
  ⟨h.isSome_eq, fun name hname => h.get?_eq name fun hmem => hname (hsub hmem)⟩

/-- Setting the value under a name that has one. -/
theorem set {name : String} (hname : (r.get? name).isSome) (a : α) :
    SameBut [name] r (r.set name a) := by
  constructor
  · intro other
    rw [get?_set]
    split
    · rename_i h
      rw [h, hname]
      rfl
    · rfl
  · intro other hother
    rw [get?_set, if_neg (List.mem_singleton.not.1 hother)]

end Registry.SameBut

/-! ## Changes from outside -/

namespace Change

/-- What a change makes of files. -/
def onFiles (c : Change) (files : Registry ByteArray) : Registry ByteArray :=
  match c with
  | .put path contents => files.set path contents
  | .remove path => files.remove path
  | _ => files

/-- The path of the file that a change is about. -/
def path? : Change → Option String
  | .put path _ | .remove path => some path
  | _ => none

theorem get?_onFiles_of_ne {c : Change} {path : String} (h : c.path? ≠ some path)
    (files : Registry ByteArray) : (c.onFiles files).get? path = files.get? path := by
  have hne : ∀ other, some other ≠ some path → path ≠ other := by
    intro other h h'
    exact h (congrArg some h'.symm)
  cases c with
  | put other contents => rw [onFiles, Registry.get?_set, if_neg (hne other h)]
  | remove other => rw [onFiles, Registry.get?_remove, if_neg (hne other h)]
  | _ => rfl

/-- A change makes the same of the same files. -/
theorem sameBut_onFiles {paths : List String} {files files' : Registry ByteArray} (c : Change)
    (h : files.SameBut paths files') : (c.onFiles files).SameBut paths (c.onFiles files') := by
  constructor
  · intro path
    have hpath := h.isSome_eq path
    cases c with
    | put other contents =>
      simp only [onFiles, Registry.get?_set]
      split <;> simp [hpath]
    | remove other =>
      simp only [onFiles, Registry.get?_remove]
      split <;> simp [hpath]
    | _ => exact hpath
  · intro path hmem
    have hpath := h.get?_eq path hmem
    cases c with
    | put other contents => simp [onFiles, hpath]
    | remove other => simp [onFiles, hpath]
    | _ => exact hpath

end Change

/-- What changes make of files, one after the other. -/
def filesAfter (cs : List (Instant × Change)) (files : Registry ByteArray) : Registry ByteArray :=
  cs.foldl (fun files c => c.2.onFiles files) files

@[simp] theorem filesAfter_nil (files : Registry ByteArray) : filesAfter [] files = files := rfl

@[simp] theorem filesAfter_cons (c : Instant × Change) (cs : List (Instant × Change))
    (files : Registry ByteArray) :
    filesAfter (c :: cs) files = filesAfter cs (c.2.onFiles files) := rfl

@[simp] theorem filesAfter_append (cs ds : List (Instant × Change))
    (files : Registry ByteArray) :
    filesAfter (cs ++ ds) files = filesAfter ds (filesAfter cs files) := List.foldl_append

theorem get?_filesAfter {cs : List (Instant × Change)} {path : String}
    (h : ∀ c ∈ cs, c.2.path? ≠ some path) (files : Registry ByteArray) :
    (filesAfter cs files).get? path = files.get? path := by
  induction cs generalizing files with
  | nil => rfl
  | cons c cs ih =>
    obtain ⟨hc, hcs⟩ := List.forall_mem_cons.1 h
    rw [filesAfter_cons, ih hcs, Change.get?_onFiles_of_ne hc]

theorem Registry.SameBut.filesAfter {paths : List String} {files files' : Registry ByteArray}
    (h : files.SameBut paths files') (cs : List (Instant × Change)) :
    (filesAfter cs files).SameBut paths (filesAfter cs files') := by
  induction cs generalizing files files' with
  | nil => exact h
  | cons c cs ih => exact ih (c.2.sameBut_onFiles h)

/-! ## Machines whose files differ -/

namespace Machine

theorem files_change (m : Machine) (c : Change) : (m.change c).files = c.onFiles m.files := by
  cases c <;> rfl

/-- Some of the changes to come, from the front, have been made. Apart from them only the
    contents of files at some paths may have changed. -/
def Alters (m : Machine) (paths : List String) (m' : Machine) : Prop :=
  ∃ made, m.pending = made ++ m'.pending ∧ (filesAfter made m.files).SameBut paths m'.files

variable {m m₁ m₂ m₃ : Machine} {paths : List String}

theorem Alters.refl (m : Machine) : m.Alters [] m := ⟨[], rfl, .refl _ _⟩

theorem Alters.trans {paths' : List String} (h : m₁.Alters paths m₂) (h' : m₂.Alters paths' m₃) :
    m₁.Alters (paths ++ paths') m₃ := by
  obtain ⟨made, hpending, hfiles⟩ := h
  obtain ⟨made', hpending', hfiles'⟩ := h'
  refine ⟨made ++ made', ?_, ?_⟩
  · rw [hpending, hpending', List.append_assoc]
  · rw [filesAfter_append]
    exact (hfiles.filesAfter made').trans hfiles'

/-- A file that is not altered, and that no change is about, stays as it is. -/
theorem Alters.get?_eq {path : String} (h : m₁.Alters paths m₂) (hpath : path ∉ paths)
    (hmade : ∀ made, m₁.pending = made ++ m₂.pending → ∀ c ∈ made, c.2.path? ≠ some path) :
    m₂.files.get? path = m₁.files.get? path := by
  obtain ⟨made, hpending, hfiles⟩ := h
  rw [hfiles.get?_eq path hpath, get?_filesAfter (hmade made hpending)]

/-- Settling makes changes from the front of those that it is given. -/
theorem settle_made (m : Machine) (cs : List (Instant × Change)) :
    ∃ made, cs = made ++ (m.settle cs).pending ∧
      (m.settle cs).files = filesAfter made m.files := by
  induction cs generalizing m with
  | nil => exact ⟨[], rfl, rfl⟩
  | cons c cs ih =>
    unfold settle
    split
    · obtain ⟨made, hpending, hfiles⟩ := ih (m.change c.2)
      refine ⟨c :: made, congrArg (c :: ·) hpending, ?_⟩
      rw [hfiles, files_change]
      rfl
    · exact ⟨[], rfl, rfl⟩

/-! ### Opening and writing -/

/-- Whether the file at a path can be opened for writing. -/
def opens (m : Machine) (path : String) : Bool :=
  (m.tries path .openWrite).1.isNone && (m.files.get? path).isSome

/-- A file that does not open stays as it is, and the write fails. One that opens holds
    the contents if the write succeeds, and else nothing. -/
theorem writeFile_cases {path : String} {contents : ByteArray} {result : Except OsError Unit}
    (h : m.writeFile path contents = (result, m₁)) :
    m.opens path = false ∧ result.isOk = false ∧ m₁.files = m.files ∨
      m.opens path = true ∧ m.files.SameBut [path] m₁.files ∧
        m₁.files.get? path = some (if result.isOk then contents else ByteArray.empty) := by
  have hfiles : (m.tries path .openWrite).2.files = m.files := rfl
  unfold opens
  unfold writeFile at h
  split at h
  · rename_i e m₂ hopen
    rw [hopen] at hfiles ⊢
    cases h
    exact .inl ⟨rfl, rfl, hfiles⟩
  · rename_i m₂ hopen
    rw [hopen] at hfiles ⊢
    split at h
    · rename_i hfile
      rw [← hfiles, hfile]
      cases h
      exact .inl ⟨rfl, rfl, rfl⟩
    · rename_i old hfile
      have hsome : (m₂.files.get? path).isSome := Option.isSome_of_eq_some hfile
      have hempty := Registry.SameBut.set hsome ByteArray.empty
      refine .inr ?_
      rw [← hfiles, hsome]
      refine ⟨rfl, ?_⟩
      dsimp only at h
      split at h
      · rename_i hcontents
        have hnothing : contents = ByteArray.empty := ByteArray.ext (Array.isEmpty_iff.1 hcontents)
        cases h
        exact ⟨hempty, by simp [hnothing]⟩
      · split at h
        · rename_i e m₃ hwrite
          have hkept : m₂.files.set path ByteArray.empty = m₃.files :=
            congrArg (fun t => t.2.files) hwrite
          cases h
          rw [← hkept]
          exact ⟨hempty, by simp [Except.isOk, Except.toBool]⟩
        · rename_i m₃ hwrite
          have hkept : m₂.files.set path ByteArray.empty = m₃.files :=
            congrArg (fun t => t.2.files) hwrite
          cases h
          rw [← hkept]
          have hthere : ((m₂.files.set path ByteArray.empty).get? path).isSome := by simp
          have hagain := Registry.SameBut.set hthere contents
          exact ⟨(hempty.trans hagain).mono (by simp), by simp [Except.isOk, Except.toBool]⟩

/-- What is written to a file is what it holds then. -/
theorem writeFile_ok {path : String} {contents : ByteArray}
    (h : (m.writeFile path contents).1 = .ok ()) :
    (m.writeFile path contents).2.files.get? path = some contents := by
  rcases writeFile_cases (Prod.eta (m.writeFile path contents)).symm with
    ⟨-, hfails, -⟩ | ⟨-, -, hholds⟩
  · rw [h] at hfails
    cases hfails
  · rw [hholds, h]
    rfl

/-- A write that fails has an error number: that of the fault, or that there is no file. -/
theorem writeFile_error {path : String} {contents : ByteArray} {e : OsError}
    (h : (m.writeFile path contents).1 = .error e) : ∃ n, e = .errno n := by
  unfold writeFile at h
  split at h
  · cases h
    exact ⟨_, rfl⟩
  · split at h
    · cases h
      exact ⟨2, rfl⟩
    · dsimp only at h
      split at h
      · cases h
      · split at h
        · cases h
          exact ⟨_, rfl⟩
        · cases h

theorem files_openFile (m : Machine) (path : String) : (m.openFile path).2.files = m.files := by
  have hfiles : (m.tries path .openRead).2.files = m.files := rfl
  unfold openFile
  split
  · rename_i hopen
    rw [hopen] at hfiles
    exact hfiles
  · rename_i hopen
    rw [hopen] at hfiles
    split <;> exact hfiles

theorem files_readFile (m : Machine) (path : String) : (m.readFile path).2.files = m.files := by
  have hfiles := m.files_openFile path
  unfold readFile
  split
  · rename_i hopen
    rw [hopen] at hfiles
    exact hfiles
  · rename_i contents m₁ hopen
    rw [hopen] at hfiles
    have hread : (m₁.triesOnce path .read).2.files = m₁.files := rfl
    split
    · rename_i hfails
      rw [hfails] at hread
      exact hread.trans hfiles
    · rename_i hsucceeds
      rw [hsucceeds] at hread
      exact hread.trans hfiles

theorem openFile_ok {path : String} {contents : ByteArray}
    (h : m.openFile path = (.ok contents, m₁)) : m.files.get? path = some contents := by
  have hfiles : (m.tries path .openRead).2.files = m.files := rfl
  unfold openFile at h
  split at h
  · cases h
  · rename_i hopen
    rw [hopen] at hfiles
    split at h
    · cases h
    · rename_i hfile
      cases h
      rw [← hfiles, hfile]

/-- What is read is what the file holds. -/
theorem readFile_ok {path : String} {contents : ByteArray}
    (h : (m.readFile path).1 = .ok contents) : m.files.get? path = some contents := by
  unfold readFile at h
  split at h
  · cases h
  · rename_i hopen
    split at h
    · cases h
    · cases h
      exact openFile_ok hopen

/-- The file that a request opens for writing, if it does. -/
def opensFor (m : Machine) : Request → List String
  | .writeFile path _ => if m.opens path then [path] else []
  | _ => []

theorem alters_writeFile (m : Machine) (path : String) (contents : ByteArray) :
    m.Alters (m.opensFor (.writeFile path contents)) (m.writeFile path contents).2 := by
  refine ⟨[], (m.sameTiming_writeFile path contents).pending.symm, ?_⟩
  rw [filesAfter_nil, opensFor]
  rcases writeFile_cases (Prod.eta (m.writeFile path contents)).symm with
    ⟨hopens, -, hfiles⟩ | ⟨hopens, hfiles, -⟩
  · rw [hopens, hfiles]
    exact .refl _ _
  · rw [hopens]
    exact hfiles

/-- Only the file that a request opens for writing is altered by it. -/
theorem alters_serve (m : Machine) (r : Request) : m.Alters (m.opensFor r) (m.serve r).2 := by
  suffices h : m.Alters (m.opensFor r) (m.answer r).2 from h
  have hsame : ∀ {m' : Machine}, m.SameTiming m' → m'.files = m.files → m.Alters [] m' := by
    intro m' htiming hfiles
    refine ⟨[], htiming.pending.symm, ?_⟩
    rw [hfiles]
    exact .refl _ _
  cases r with
  | openFile path =>
    have h := hsame (m.sameTiming_openFile path) (m.files_openFile path)
    simp only [answer]
    split
    · rename_i hopen
      rw [hopen] at h
      exact h
    · rename_i hopen
      rw [hopen] at h
      exact h
  | readFile path => exact hsame (m.sameTiming_readFile path) (m.files_readFile path)
  | writeFile path contents => exact m.alters_writeFile path contents
  | sleep d =>
    obtain ⟨made, hpending, hfiles⟩ :=
      settle_made { m with clock := m.clock.after d } m.pending
    refine ⟨made, hpending, ?_⟩
    rw [← hfiles]
    exact .refl _ _
  | _ => exact .refl m

end Machine

/-! ## Programs -/

namespace Program

/-- The files that a program opens for writing, in order. -/
def opened : Program α → Machine → List String
  | done _, _ => []
  | ask r next, m => m.opensFor r ++ (next (m.serve r).1).opened (m.serve r).2

/-- A program alters nothing but the files that it opens for writing. -/
theorem alters_opened (x : Program α) (m : Machine) : m.Alters (x.opened m) (x.after m) := by
  induction x generalizing m with
  | done a => exact .refl m
  | ask r next ih => exact (m.alters_serve r).trans (ih _ _)

theorem writesIn_ask (r : Request) (next : r.Answer → Program α) (m : Machine) :
    writesIn ((ask r next).trace m) =
      (m.entry r).write?.toList ++ writesIn ((next (m.serve r).1).trace (m.serve r).2) := by
  rw [trace, writesIn, List.filterMap_cons]
  cases (m.entry r).write? <;> rfl

/-- A program opens only those files for writing that it writes to. -/
theorem opened_subset (x : Program α) (m : Machine) :
    x.opened m ⊆ (writesIn (x.trace m)).map Write.path := by
  induction x generalizing m with
  | done a => exact List.nil_subset _
  | ask r next ih =>
    rw [writesIn_ask, List.map_append]
    refine List.append_subset.2 ⟨?_, fun path hpath => List.mem_append_right _ (ih _ _ hpath)⟩
    refine List.Subset.trans ?_ (List.subset_append_left _ _)
    cases r with
    | writeFile path contents =>
      simp only [Machine.opensFor]
      split
      · exact List.Subset.refl [path]
      · exact List.nil_subset _
    | _ => exact List.nil_subset _

/-- A write that succeeds says what its file holds after the program, unless the program
    writes to that file again or a change from outside is made to it. -/
theorem get?_of_write (x : Program α) {m : Machine} {front back : List Write} {w : Write}
    (hws : writesIn (x.trace m) = front ++ w :: back) (hw : w.result = .ok ())
    (hback : ∀ v ∈ back, v.path ≠ w.path)
    (hmade : ∀ made, m.pending = made ++ (x.after m).pending →
      ∀ c ∈ made, c.2.path? ≠ some w.path) :
    (x.after m).files.get? w.path = some w.contents := by
  induction x generalizing m front with
  | done a =>
    have hlength := congrArg List.length hws
    simp at hlength
  | ask r next ih =>
    obtain ⟨before, hpending, -⟩ := m.alters_serve r
    have hlater : ∀ made, (m.serve r).2.pending =
        made ++ ((next (m.serve r).1).after (m.serve r).2).pending →
        ∀ c ∈ made, c.2.path? ≠ some w.path := by
      intro made hmore c hc
      apply hmade (before ++ made) _ c (List.mem_append_right before hc)
      rw [hpending, hmore, List.append_assoc]
      rfl
    rw [writesIn_ask] at hws
    cases hentry : (m.entry r).write? with
    | none =>
      rw [hentry] at hws
      exact ih _ hws hlater
    | some v =>
      rw [hentry] at hws
      cases front with
      | cons u front => exact ih _ (List.cons.inj hws).2 hlater
      | nil =>
        -- This is the write: what the rest of the program opens are other files.
        obtain ⟨rfl, rfl⟩ := List.cons.inj hws
        have hclosed : v.path ∉ (next (m.serve r).1).opened (m.serve r).2 := by
          intro hopened
          obtain ⟨u, hu, hpath⟩ := List.mem_map.1 (opened_subset _ _ hopened)
          exact hback u hu hpath
        have hkept := ((next (m.serve r).1).alters_opened _).get?_eq hclosed hlater
        cases r with
        | writeFile path contents =>
          cases hentry
          exact hkept.trans (Machine.writeFile_ok hw)
        | _ => cases hentry

/-- Nothing is changed from outside while a program takes no time. -/
theorem get?_of_write_at_once {x : Program α} {m : Machine} {back : List Write} {w : Write}
    (htiming : m.SameTiming (x.after m)) (front : List Write)
    (hws : writesIn (x.trace m) = front ++ w :: back)
    (hw : w.result = .ok ()) (hback : ∀ v ∈ back, v.path ≠ w.path) :
    (x.after m).files.get? w.path = some w.contents := by
  refine x.get?_of_write hws hw hback fun made hmade c hc => ?_
  have hnone : made = [] := by
    rw [htiming.pending] at hmade
    exact List.self_eq_append_left.1 hmade
  rw [hnone] at hc
  cases hc

/-- The only write of a program that takes no time, if it succeeds, says what the file holds
    then. -/
theorem WritesOnce.leaves {x : Program α} {path text : String}
    {Q : α → Except OsError Unit → Prop} {m : Machine} {time : Instant}
    (hx : x.WritesOnce path text Q m)
    (hwrites : writesIn (x.trace m) = [.ofText time path text (.ok ())]) :
    (x.after m).files.get? path = some text.toUTF8 :=
  get?_of_write_at_once hx.1 [] hwrites rfl nofun

/-- A write that fails has an error number. -/
theorem errno_of_write (x : Program α) (m : Machine) :
    ∀ w ∈ writesIn (x.trace m), ∀ e, w.result = .error e → ∃ n, e = .errno n := by
  intro w hw e he
  obtain ⟨entry, hentry, hwrite⟩ := List.mem_filterMap.1 hw
  obtain ⟨m', r, rfl⟩ := x.exists_entry hentry
  cases r with
  | writeFile path contents =>
    cases hwrite
    exact Machine.writeFile_error he
  | _ => cases hwrite

end Program

end Cooling
