-- SUMMARY: Values under names: look one up, set it, and remove it.

/-!
# Registries

The files of a machine, its libraries and its devices are values under names.
A registry keeps them in the order in which the names were first set. Its view
is `get?`: what stands under a name.
-/

namespace Cooling

structure Registry (α : Type) where
  entries : List (String × α)

namespace Registry

def empty : Registry α := ⟨[]⟩

instance : EmptyCollection (Registry α) := ⟨empty⟩
instance : Inhabited (Registry α) := ⟨empty⟩

/-- What stands under the name. -/
def get? (r : Registry α) (name : String) : Option α := r.entries.lookup name

/-- Replaces the value under the name in a list that has it, or adds one at the end. -/
def setIn (name : String) (a : α) : List (String × α) → List (String × α)
  | [] => [(name, a)]
  | (n, b) :: rest => if name == n then (name, a) :: rest else (n, b) :: setIn name a rest

/-- Sets the value under the name. -/
def set (r : Registry α) (name : String) (a : α) : Registry α := ⟨setIn name a r.entries⟩

/-- Removes what stands under the name. -/
def remove (r : Registry α) (name : String) : Registry α :=
  ⟨r.entries.filter (fun e => !(name == e.1))⟩

/-! ## The view -/

@[simp] theorem get?_empty (name : String) : (∅ : Registry α).get? name = none := rfl

theorem lookup_setIn (name other : String) (a : α) (es : List (String × α)) :
    (setIn name a es).lookup other = if other = name then some a else es.lookup other := by
  induction es with
  | nil =>
    by_cases h : other = name
    · simp [setIn, h]
    · have hb : (other == name) = false := by simpa using h
      simp [setIn, List.lookup_cons, h, hb]
  | cons e es ih =>
    obtain ⟨n, b⟩ := e
    by_cases hn : name = n
    · subst hn
      by_cases h : other = name
      · simp [setIn, h]
      · have hb : (other == name) = false := by simpa using h
        simp [setIn, List.lookup_cons, h, hb]
    · have hb : (name == n) = false := by simpa using hn
      by_cases h : other = n
      · subst h
        simp [setIn, hb, Ne.symm hn]
      · have hc : (other == n) = false := by simpa using h
        simp [setIn, List.lookup_cons, hb, hc, ih]

@[simp] theorem get?_set (r : Registry α) (name other : String) (a : α) :
    (r.set name a).get? other = if other = name then some a else r.get? other :=
  lookup_setIn name other a r.entries

@[simp] theorem get?_remove (r : Registry α) (name other : String) :
    (r.remove name).get? other = if other = name then none else r.get? other := by
  simp only [get?, remove]
  induction r.entries with
  | nil => simp
  | cons e es ih =>
    obtain ⟨n, b⟩ := e
    by_cases hn : name = n
    · subst hn
      by_cases h : other = name
      · subst h
        simp only [List.filter, beq_self_eq_true, Bool.not_true, if_true] at ih ⊢
        exact ih
      · have hb : (other == name) = false := by simpa using h
        simpa [List.filter, List.lookup_cons, h, hb] using ih
    · have hb : (name == n) = false := by simpa using hn
      by_cases h : other = n
      · subst h
        simp [List.filter, hb, Ne.symm hn]
      · have hc : (other == n) = false := by simpa using h
        simpa [List.filter, List.lookup_cons, hb, hc] using ih

end Registry

end Cooling
