-- SUMMARY: The temperatures of a cycle, in the order in which the sensors gave them.

/-!
# Temperatures

Whole degrees Celsius, as signed numbers of 32 bits. Sensors append to the
temperatures that they are handed.
-/

namespace Cooling

/-- The temperatures read so far. -/
structure Temperatures where
  toList : List Int
  deriving DecidableEq, Repr

namespace Temperatures

def empty : Temperatures := ⟨[]⟩

instance : Inhabited Temperatures := ⟨empty⟩

def push (ts : Temperatures) (t : Int) : Temperatures := ⟨ts.toList ++ [t]⟩

def append (ts : Temperatures) (more : List Int) : Temperatures := ⟨ts.toList ++ more⟩

/-- No temperatures are left of those before. -/
def cleared (_ : Temperatures) : Temperatures := empty

def size (ts : Temperatures) : Nat := ts.toList.length

/-- The highest temperature. -/
def max? (ts : Temperatures) : Option Int := ts.toList.max?

/-- The temperatures as a JSON array. -/
def json (ts : Temperatures) : String :=
  "[" ++ ",".intercalate (ts.toList.map (fun t => s!"{t}")) ++ "]"

@[simp] theorem toList_empty : empty.toList = [] := rfl
@[simp] theorem toList_push (ts : Temperatures) (t : Int) :
    (ts.push t).toList = ts.toList ++ [t] := rfl
@[simp] theorem toList_append (ts : Temperatures) (more : List Int) :
    (ts.append more).toList = ts.toList ++ more := rfl
@[simp] theorem append_nil (ts : Temperatures) : ts.append [] = ts := by simp [append]
@[simp] theorem append_append (ts : Temperatures) (more others : List Int) :
    (ts.append more).append others = ts.append (more ++ others) := by simp [append]
@[simp] theorem size_push (ts : Temperatures) (t : Int) : (ts.push t).size = ts.size + 1 := by
  simp [size]

end Temperatures

end Cooling
