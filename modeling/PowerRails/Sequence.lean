/-! # Non-empty sequences

What is carried out in order has at least one item, so that there is always a last result. -/

namespace PowerRails

/-- A list with at least one item. -/
structure Sequence (α : Type) where
  first : α
  rest : List α := []
deriving DecidableEq, Repr

namespace Sequence

variable {α : Type}

/-- The elements in order. -/
def toList (s : Sequence α) : List α := s.first :: s.rest

/-- The sequence of the items of a list, unless there are none. -/
def ofList? : List α → Option (Sequence α)
  | [] => none
  | a :: as => some ⟨a, as⟩

def length (s : Sequence α) : Nat := s.rest.length + 1

instance : Membership α (Sequence α) := ⟨fun s a => a ∈ s.toList⟩

theorem mem_toList {s : Sequence α} {a : α} : a ∈ s.toList ↔ a ∈ s := Iff.rfl

@[simp] theorem ofList?_toList (s : Sequence α) : ofList? s.toList = some s := rfl

theorem toList_of_ofList? {l : List α} {s : Sequence α} (h : ofList? l = some s) : s.toList = l := by
  cases l with
  | nil => cases h
  | cons a as => cases h; rfl

theorem ofList?_eq_none_iff {l : List α} : ofList? l = none ↔ l = [] := by cases l <;> simp [ofList?]

@[simp] theorem sizeOf_toList [SizeOf α] (s : Sequence α) : sizeOf s.toList = sizeOf s := by
  cases s
  simp [toList]

end Sequence
end PowerRails
