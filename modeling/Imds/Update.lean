/-!
# Functions Changed at One Number

Caches, records of interfaces and sources of shared resources are kept by number,
as functions of it. A family that is a function has a member for every number, so
nobody has to say what happens when a number is not there.

## Main definitions

* `updateAt`: A function changed at one number.

## Theorems

* `updateAt_self`, `updateAt_of_ne`: Where the change is seen.
* `updateAt_eq_self`: A change to the value that is there.
* `updateAt_idem`, `updateAt_comm`: Two changes, at one number and at two.
-/

namespace Imds

/-- A function changed at one number. -/
def updateAt {β : Type} (f : Nat → β) (i : Nat) (v : β) : Nat → β :=
  fun j => if j = i then v else f j

@[simp] theorem updateAt_self {β : Type} (f : Nat → β) (i : Nat) (v : β) :
    updateAt f i v i = v := by
  simp [updateAt]

theorem updateAt_of_ne {β : Type} (f : Nat → β) {i j : Nat} (v : β) (h : j ≠ i) :
    updateAt f i v j = f j := by
  simp [updateAt, h]

theorem updateAt_eq_self {β : Type} {f : Nat → β} {i : Nat} {v : β} (h : f i = v) :
    updateAt f i v = f := by
  funext j
  by_cases hj : j = i
  · rw [hj, updateAt_self, h]
  · exact updateAt_of_ne f v hj

theorem updateAt_idem {β : Type} (f : Nat → β) (i : Nat) (v w : β) :
    updateAt (updateAt f i v) i w = updateAt f i w := by
  funext j
  by_cases h : j = i
  · simp [updateAt, h]
  · simp [updateAt, h]

theorem updateAt_comm {β : Type} (f : Nat → β) {i j : Nat} (v w : β) (h : i ≠ j) :
    updateAt (updateAt f i v) j w = updateAt (updateAt f j w) i v := by
  funext k
  by_cases hi : k = i
  · simp [updateAt, hi, h]
  · simp [updateAt, hi]

end Imds
