/-!
# Dictionaries

A finite map kept as a list of pairs whose keys differ. `get?` after `insert`
and `erase` is all that the rest of the project relies on; `sortedBy` lists the
pairs in an order of the caller's choice, since the order of insertion means
nothing.
-/

namespace ShellGateway

/-- A finite map from `κ` to `ν`. -/
structure Dictionary (κ ν : Type) where
  entries : List (κ × ν) := []
  deriving Repr, DecidableEq

namespace Dictionary

variable {κ ν : Type} [DecidableEq κ]

/-- The map without entries. -/
def empty : Dictionary κ ν := {}

instance : EmptyCollection (Dictionary κ ν) := ⟨empty⟩

/-- The value of a key. -/
def get? (d : Dictionary κ ν) (k : κ) : Option ν :=
  (d.entries.find? (·.1 = k)).map (·.2)

/-- The map without a key. -/
def erase (d : Dictionary κ ν) (k : κ) : Dictionary κ ν :=
  ⟨d.entries.filter (·.1 ≠ k)⟩

/-- The map with a key bound to a value, whatever it was bound to before. -/
def insert (d : Dictionary κ ν) (k : κ) (v : ν) : Dictionary κ ν :=
  ⟨(k, v) :: (d.erase k).entries⟩

/-- The number of keys. -/
def size (d : Dictionary κ ν) : Nat :=
  d.entries.length

/-- The keys, in no order that means anything. -/
def keys (d : Dictionary κ ν) : List κ :=
  d.entries.map (·.1)

/-- Whether a key is bound. -/
def contains (d : Dictionary κ ν) (k : κ) : Bool :=
  (d.get? k).isSome

/-- The entries in the order of their keys. -/
def sortedBy (d : Dictionary κ ν) (le : κ → κ → Bool) : List (κ × ν) :=
  d.entries.mergeSort fun x y => le x.1 y.1

@[simp]
theorem get?_empty (k : κ) : (empty : Dictionary κ ν).get? k = none := rfl

@[simp]
theorem get?_insert_self (d : Dictionary κ ν) (k : κ) (v : ν) : (d.insert k v).get? k = some v := by
  simp [get?, insert]

theorem get?_erase (d : Dictionary κ ν) (k k' : κ) :
    (d.erase k).get? k' = if k' = k then none else d.get? k' := by
  obtain ⟨entries⟩ := d
  simp only [get?, erase]
  induction entries with
  | nil => simp
  | cons e rest ih => grind

theorem get?_insert (d : Dictionary κ ν) (k k' : κ) (v : ν) :
    (d.insert k v).get? k' = if k' = k then some v else d.get? k' := by
  by_cases h : k' = k
  · subst h; simp
  · have := get?_erase d k k'
    simp only [h, if_false] at this
    simp only [h, if_false, ← this]
    simp [get?, insert, Ne.symm h]

end Dictionary

end ShellGateway
