import AndInverter.OrderedMap
import Mathlib.Data.List.Induction

/-!
# Entries of ordered maps

An entry of a map was given at some time, and a map is what its own entries make, in their order.
A map made from pairs has each key once, where the key came first, with the value it came with last.
-/
namespace AndInverter.OrderedMap
variable {α β : Type} [DecidableEq α]

theorem mem_put {key : α} {value : β} {entries : List (α × β)} {entry : α × β}
    (h : entry ∈ put key value entries) : entry = (key, value) ∨ entry ∈ entries := by
  induction entries with
  | nil => exact .inl (List.mem_singleton.mp h)
  | cons first rest ih =>
    rw [put] at h
    split at h
    · rcases List.mem_cons.mp h with given | old
      · exact .inl given
      · exact .inr (List.mem_cons_of_mem first old)
    · rcases List.mem_cons.mp h with rfl | h
      · exact .inr List.mem_cons_self
      · rcases ih h with given | old
        · exact .inl given
        · exact .inr (List.mem_cons_of_mem first old)

theorem mem_insert {m : OrderedMap α β} {key : α} {value : β} {entry : α × β}
    (h : entry ∈ (m.insert key value).entries) : entry = (key, value) ∨ entry ∈ m.entries :=
  mem_put h

/-- What holds of all pairs given holds of all entries. -/
theorem forall_mem_ofList {p : α × β → Prop} {pairs : List (α × β)}
    (given : ∀ pair ∈ pairs, p pair) : ∀ entry ∈ (ofList pairs).entries, p entry := by
  have run : ∀ m : OrderedMap α β, (∀ entry ∈ m.entries, p entry) →
      ∀ entry ∈ (pairs.foldl (fun m pair => m.insert pair.1 pair.2) m).entries, p entry := by
    induction pairs with
    | nil => exact fun m held => held
    | cons pair rest ih =>
      intro m held
      refine ih (fun other h => given other (List.mem_cons_of_mem pair h)) _ ?_
      intro entry h
      rcases mem_insert h with rfl | old
      · exact given _ List.mem_cons_self
      · exact held entry old
  exact run empty fun entry h => absurd h List.not_mem_nil

theorem put_of_absent {key : α} {value : β} {entries : List (α × β)}
    (absent : key ∉ entries.map Prod.fst) : put key value entries = entries ++ [(key, value)] := by
  induction entries with
  | nil => rfl
  | cons first rest ih =>
    rw [List.map_cons, List.mem_cons, not_or] at absent
    rw [put, if_neg (Ne.symm absent.1), ih absent.2, List.cons_append]

/-- New keys are put behind the entries that are there. -/
theorem entries_foldl_insert (pairs : List (α × β)) (m : OrderedMap α β)
    (distinct : ((m.entries ++ pairs).map Prod.fst).Nodup) :
    (pairs.foldl (fun m pair => m.insert pair.1 pair.2) m).entries = m.entries ++ pairs := by
  induction pairs generalizing m with
  | nil => exact (List.append_nil _).symm
  | cons pair rest ih =>
    have absent : pair.1 ∉ m.entries.map Prod.fst := by
      rw [List.map_append, List.map_cons] at distinct
      exact fun h => (List.nodup_append.mp distinct).2.2 _ h _ List.mem_cons_self rfl
    have added : (m.insert pair.1 pair.2).entries = m.entries ++ [pair] := put_of_absent absent
    have shifted : (m.insert pair.1 pair.2).entries ++ rest = m.entries ++ pair :: rest := by
      rw [added, List.append_assoc, List.singleton_append]
    rw [List.foldl_cons, ih _ (by rw [shifted]; exact distinct), shifted]

/-- A map is made by its own entries. -/
theorem ofList_entries (m : OrderedMap α β) : ofList m.entries = m :=
  OrderedMap.ext (entries_foldl_insert m.entries empty m.nodup)

section Pairs
variable {pairs : List (α × β)} {key : α} {value : β}

def IsLast (pairs : List (α × β)) (key : α) (value : β) : Prop :=
  ∃ before after, pairs = before ++ (key, value) :: after ∧ key ∉ after.map Prod.fst

def firstKeys (pairs : List (α × β)) : List α := (pairs.map Prod.fst).eraseDups

theorem mem_firstKeys : key ∈ firstKeys pairs ↔ key ∈ pairs.map Prod.fst := List.mem_eraseDups

omit [DecidableEq α] in
theorem IsLast.mem (last : IsLast pairs key value) : (key, value) ∈ pairs := by
  obtain ⟨before, after, rfl, _⟩ := last
  exact List.mem_append_right before List.mem_cons_self

omit [DecidableEq α] in
theorem isLast_append_singleton {pair : α × β} : IsLast (pairs ++ [pair]) key value ↔
    pair = (key, value) ∨ pair.1 ≠ key ∧ IsLast pairs key value := by
  constructor
  · rintro ⟨before, after, split, absent⟩
    rcases List.eq_nil_or_concat after with rfl | ⟨front, last, rfl⟩
    · exact Or.inl (List.singleton_inj.mp (List.append_inj_right' split rfl))
    · rw [List.concat_eq_append] at split absent
      rw [← List.cons_append, ← List.append_assoc] at split
      obtain rfl := List.singleton_inj.mp (List.append_inj_right' split rfl)
      rw [List.map_append, List.mem_append, not_or] at absent
      have other : pair.1 ≠ key := fun same => absent.2 (List.mem_singleton.mpr same.symm)
      exact Or.inr ⟨other, before, front, List.append_inj_left' split rfl, absent.1⟩
  · rintro (rfl | ⟨other, before, after, rfl, absent⟩)
    · exact ⟨pairs, [], rfl, List.not_mem_nil⟩
    · refine ⟨before, after ++ [pair], by rw [List.append_assoc, List.cons_append], ?_⟩
      rw [List.map_append, List.mem_append, not_or]
      exact ⟨absent, by simpa using other.symm⟩

theorem ofList_append_singleton (pairs : List (α × β)) (pair : α × β) :
    ofList (pairs ++ [pair]) = (ofList pairs).insert pair.1 pair.2 := by
  rw [ofList, List.foldl_append]
  rfl

/-- The last value given to a key is the one it has. -/
theorem get?_ofList_eq_some_iff :
    (ofList pairs).get? key = some value ↔ IsLast pairs key value := by
  induction pairs using List.reverseRecOn with
  | nil =>
    constructor
    · intro h
      cases h
    · rintro ⟨before, after, split, _⟩
      exact absurd split.symm (List.append_ne_nil_of_right_ne_nil before (List.cons_ne_nil _ _))
  | append_singleton pairs pair ih =>
    rw [ofList_append_singleton, get?_insert, isLast_append_singleton, ← ih]
    by_cases same : key = pair.1
    · subst same
      simp [Prod.ext_iff]
    · have other : pair.1 ≠ key := Ne.symm same
      simp [same, other, Prod.ext_iff]

/-- A key stands where it was given first. -/
theorem keys_ofList (pairs : List (α × β)) : (ofList pairs).keys = firstKeys pairs := by
  induction pairs using List.reverseRecOn with
  | nil => rfl
  | append_singleton pairs pair ih =>
    have behind : firstKeys (pairs ++ [pair]) =
        firstKeys pairs ++ ([pair.1].removeAll (pairs.map Prod.fst)).eraseDups := by
      rw [firstKeys, List.map_append, List.eraseDups_append]
      rfl
    rw [ofList_append_singleton, keys_insert, ih, behind]
    by_cases known : pair.1 ∈ pairs.map Prod.fst
    · rw [if_pos (mem_firstKeys.mpr known)]
      simp [List.removeAll, known]
    · rw [if_neg (known ∘ mem_firstKeys.mp)]
      simp [List.removeAll, known, List.eraseDups_cons]

theorem find_eq_none_iff {entries : List (α × β)} :
    find key entries = none ↔ key ∉ entries.map Prod.fst := by
  induction entries with
  | nil => simp [find]
  | cons entry rest ih =>
    rw [find, List.map_cons, List.mem_cons, not_or, ← ih]
    by_cases same : entry.1 = key
    · simp [same]
    · simp [same, Ne.symm same]

/-- The keys of a map are those that have a value. -/
theorem get?_eq_none_iff {m : OrderedMap α β} : m.get? key = none ↔ key ∉ m.keys :=
  find_eq_none_iff

end Pairs

section Given
variable {γ : Type} {f : γ → Option (α × β)} {xs : List γ} {key : α} {value : β}

omit [DecidableEq α] in
theorem mem_keys_filterMap : key ∈ (xs.filterMap f).map Prod.fst ↔
    ∃ x ∈ xs, ∃ value, f x = some (key, value) := by
  simp only [List.mem_map, List.mem_filterMap]
  constructor
  · rintro ⟨⟨_, value⟩, ⟨x, hx, given⟩, rfl⟩
    exact ⟨x, hx, value, given⟩
  · rintro ⟨x, hx, value, given⟩
    exact ⟨(key, value), ⟨x, hx, given⟩, rfl⟩

omit [DecidableEq α] in
/-- The last pair with a key is given where nothing behind gives that key. -/
theorem isLast_filterMap_iff : IsLast (xs.filterMap f) key value ↔
    ∃ before x after, xs = before ++ x :: after ∧ f x = some (key, value) ∧
      ∀ y ∈ after, ∀ other, f y ≠ some (key, other) := by
  constructor
  · rintro ⟨front, behind, split, absent⟩
    obtain ⟨before, rest, rfl, _, last⟩ := List.filterMap_eq_append_iff.mp split
    obtain ⟨skipped, x, after, rfl, _, given, rfl⟩ := List.filterMap_eq_cons_iff.mp last
    refine ⟨before ++ skipped, x, after, (List.append_assoc ..).symm, given, ?_⟩
    intro y hy other again
    exact absent (mem_keys_filterMap.mpr ⟨y, hy, other, again⟩)
  · rintro ⟨before, x, after, rfl, given, absent⟩
    refine ⟨before.filterMap f, after.filterMap f, ?_, ?_⟩
    · rw [List.filterMap_append, List.filterMap_cons_some given]
    · intro known
      obtain ⟨y, hy, other, again⟩ := mem_keys_filterMap.mp known
      exact absent y hy other again

def firstPlace (f : γ → Option (α × β)) (xs : List γ) (key : α) : Nat :=
  xs.findIdx fun x => (f x).any (·.1 = key)

theorem firstPlace_lt_length_iff : firstPlace f xs key < xs.length ↔
    key ∈ (ofList (xs.filterMap f)).keys := by
  rw [firstPlace, List.findIdx_lt_length, keys_ofList, mem_firstKeys, mem_keys_filterMap]
  simp [Option.any_eq_true]

theorem firstPlace_append (ys : List γ) : firstPlace f (xs ++ ys) key =
    if key ∈ (ofList (xs.filterMap f)).keys then firstPlace f xs key
    else firstPlace f ys key + xs.length := by
  simp only [← firstPlace_lt_length_iff]
  exact List.findIdx_append

/-- Keys stand in the order of the places where they are given first. -/
theorem keys_ofList_filterMap_pairwise : (ofList (xs.filterMap f)).keys.Pairwise
    fun k k' => firstPlace f xs k < firstPlace f xs k' := by
  induction xs using List.reverseRecOn with
  | nil => exact .nil
  | append_singleton xs x ih =>
    have stays {k : α} (known : k ∈ (ofList (xs.filterMap f)).keys) :
        firstPlace f (xs ++ [x]) k = firstPlace f xs k :=
      (firstPlace_append [x]).trans (if_pos known)
    have older : (ofList (xs.filterMap f)).keys.Pairwise
        fun k k' => firstPlace f (xs ++ [x]) k < firstPlace f (xs ++ [x]) k' :=
      ih.imp_of_mem fun hk hk' before => by rwa [stays hk, stays hk']
    rw [List.filterMap_append]
    cases given : f x with
    | none =>
      rw [List.filterMap_cons_none given, List.filterMap_nil, List.append_nil]
      exact older
    | some pair =>
      rw [List.filterMap_cons_some given, List.filterMap_nil, ofList_append_singleton, keys_insert]
      by_cases known : pair.1 ∈ (ofList (xs.filterMap f)).keys
      · rw [if_pos known]
        exact older
      · rw [if_neg known, List.pairwise_append]
        refine ⟨older, List.pairwise_singleton _ _, ?_⟩
        intro k hk k' new
        obtain rfl := List.mem_singleton.mp new
        have late : xs.length ≤ firstPlace f (xs ++ [x]) pair.1 := by
          rw [firstPlace_append, if_neg known]
          exact Nat.le_add_left _ _
        rw [stays hk]
        exact Nat.lt_of_lt_of_le (firstPlace_lt_length_iff.mpr hk) late

end Given

end AndInverter.OrderedMap
