/-!
Maps that remember the order in which their keys came. A key given again keeps its place and takes
the new value. The view is the list of entries; the laws below say what each operation does to the
keys and to `get?`.
-/
namespace AndInverter

/-- Entries with distinct keys, oldest key first. -/
@[ext] structure OrderedMap (α β : Type) where
  entries : List (α × β)
  nodup : (entries.map Prod.fst).Nodup
  deriving DecidableEq

namespace OrderedMap
variable {α β : Type} [DecidableEq α]

/-- The entries after `key` was given `value`: in its place, or at the end. -/
def put (key : α) (value : β) : List (α × β) → List (α × β)
  | [] => [(key, value)]
  | entry :: rest => if entry.1 = key then (key, value) :: rest else entry :: put key value rest

def find (key : α) : List (α × β) → Option β
  | [] => none
  | entry :: rest => if entry.1 = key then some entry.2 else find key rest

theorem find_put (key : α) (value : β) (entries : List (α × β)) (k : α) :
    find k (put key value entries) = if k = key then some value else find k entries := by
  induction entries with
  | nil => simp [put, find, eq_comm]
  | cons entry rest ih => grind [put, find]

theorem find_filter (key : α) (entries : List (α × β)) (k : α) :
    find k (entries.filter fun entry => entry.1 ≠ key) =
      if k = key then none else find k entries := by
  induction entries with
  | nil => simp [find]
  | cons entry rest ih => grind [find]

/-- A key that is there keeps its place, a new one goes to the end. -/
theorem keys_put (key : α) (value : β) (entries : List (α × β)) :
    (put key value entries).map Prod.fst =
      if key ∈ entries.map Prod.fst then entries.map Prod.fst
      else entries.map Prod.fst ++ [key] := by
  induction entries with
  | nil => rfl
  | cons entry rest ih =>
    by_cases h : entry.1 = key
    · simp [put, h]
    · have h' : key ≠ entry.1 := fun e => h e.symm
      simp only [put, h, if_false, List.map_cons, ih, List.mem_cons, h', false_or]
      split <;> simp

def empty : OrderedMap α β := ⟨[], .nil⟩

instance : Inhabited (OrderedMap α β) := ⟨empty⟩

def insert (m : OrderedMap α β) (key : α) (value : β) : OrderedMap α β where
  entries := put key value m.entries
  nodup := by
    rw [keys_put]
    split
    · exact m.nodup
    · next h => exact List.nodup_append.2 ⟨m.nodup, by simp, by simpa using fun a _ => by grind⟩

def erase (m : OrderedMap α β) (key : α) : OrderedMap α β where
  entries := m.entries.filter fun entry => entry.1 ≠ key
  nodup := m.nodup.sublist (List.filter_sublist.map _)

def get? (m : OrderedMap α β) (key : α) : Option β := find key m.entries

def keys (m : OrderedMap α β) : List α := m.entries.map Prod.fst

def size (m : OrderedMap α β) : Nat := m.entries.length

def isEmpty (m : OrderedMap α β) : Bool := m.entries.isEmpty

def ofList (pairs : List (α × β)) : OrderedMap α β :=
  pairs.foldl (fun m pair => m.insert pair.1 pair.2) empty

theorem get?_insert (m : OrderedMap α β) (key : α) (value : β) (k : α) :
    (m.insert key value).get? k = if k = key then some value else m.get? k :=
  find_put key value m.entries k

theorem keys_insert (m : OrderedMap α β) (key : α) (value : β) :
    (m.insert key value).keys = if key ∈ m.keys then m.keys else m.keys ++ [key] :=
  keys_put key value m.entries

theorem get?_erase (m : OrderedMap α β) (key k : α) :
    (m.erase key).get? k = if k = key then none else m.get? k :=
  find_filter key m.entries k

end OrderedMap

end AndInverter
