/-!
# Dictionaries keyed by text

A finite map from text to values, kept as its list of entries in strictly
increasing key order, so that listing it is deterministic. Each operation is
described by the look-ups it leaves behind (`Dictionary.get?_insert`,
`Dictionary.get?_filter`, `Dictionary.get?_erase`).
-/

namespace EntityEngine

/-- Put `value` under `key` into an ordered list of entries, replacing the entry
that already has the key. -/
def insertEntry {α : Type} (key : String) (value : α) :
    List (String × α) → List (String × α)
  | [] => [(key, value)]
  | (k, v) :: rest =>
    if key < k then (key, value) :: (k, v) :: rest
    else if k < key then (k, v) :: insertEntry key value rest
    else (key, value) :: rest

/-- The keys of the entries increase strictly. -/
def KeysIncrease {α : Type} (entries : List (String × α)) : Prop :=
  entries.Pairwise fun a b => a.1 < b.1

theorem insertEntry_of_lt {α : Type} {key k : String} (h : key < k) {value v : α}
    {rest : List (String × α)} :
    insertEntry key value ((k, v) :: rest) = (key, value) :: (k, v) :: rest :=
  if_pos h

theorem insertEntry_of_gt {α : Type} {key k : String} (h : k < key) {value v : α}
    {rest : List (String × α)} :
    insertEntry key value ((k, v) :: rest) = (k, v) :: insertEntry key value rest :=
  (if_neg (String.lt_asymm h)).trans (if_pos h)

theorem mem_insertEntry {α : Type} {key : String} {value : α} {entry : String × α}
    {entries : List (String × α)} (h : entry ∈ insertEntry key value entries) :
    entry = (key, value) ∨ entry ∈ entries := by
  induction entries with
  | nil => simpa [insertEntry] using h
  | cons head rest ih =>
    obtain ⟨k, v⟩ := head
    unfold insertEntry at h
    split at h
    · simpa using h
    split at h
    · rcases List.mem_cons.mp h with h | h
      · exact .inr (h ▸ List.mem_cons_self)
      · exact (ih h).imp id (List.mem_cons_of_mem _)
    · exact (List.mem_cons.mp h).imp id (List.mem_cons_of_mem _)

theorem keysIncrease_insertEntry {α : Type} (key : String) (value : α)
    {entries : List (String × α)} (h : KeysIncrease entries) :
    KeysIncrease (insertEntry key value entries) := by
  induction entries with
  | nil => simp [insertEntry, KeysIncrease]
  | cons head rest ih =>
    obtain ⟨k, v⟩ := head
    obtain ⟨hhead, hrest⟩ := List.pairwise_cons.mp h
    unfold insertEntry
    split
    · rename_i hlt
      refine List.pairwise_cons.mpr ⟨fun entry hmem => ?_, h⟩
      rcases List.mem_cons.mp hmem with rfl | hmem
      · exact hlt
      · exact String.lt_trans hlt (hhead entry hmem)
    split
    · rename_i hgt
      refine List.pairwise_cons.mpr ⟨fun entry hmem => ?_, ih hrest⟩
      rcases mem_insertEntry hmem with rfl | hmem
      · exact hgt
      · exact hhead entry hmem
    · rename_i hnlt hngt
      obtain rfl := String.le_antisymm (String.not_lt.mp hngt) (String.not_lt.mp hnlt)
      exact List.pairwise_cons.mpr ⟨hhead, hrest⟩

/-- A finite map from text to values. -/
structure Dictionary (α : Type) where
  entries : List (String × α)
  increasing : KeysIncrease entries
deriving DecidableEq

namespace Dictionary

variable {α β : Type}

def empty : Dictionary α := ⟨[], .nil⟩

instance : Inhabited (Dictionary α) := ⟨empty⟩

def isEmpty (d : Dictionary α) : Bool := d.entries.isEmpty

def size (d : Dictionary α) : Nat := d.entries.length

def keys (d : Dictionary α) : List String := d.entries.map Prod.fst

/-- The value under `key`, if there is one. -/
def get? (d : Dictionary α) (key : String) : Option α :=
  (d.entries.find? fun entry => entry.1 == key).map Prod.snd

def contains (d : Dictionary α) (key : String) : Bool := (d.get? key).isSome

/-- Put `value` under `key`, in place of what was there. -/
def insert (d : Dictionary α) (key : String) (value : α) : Dictionary α :=
  ⟨insertEntry key value d.entries, keysIncrease_insertEntry key value d.increasing⟩

def filter (d : Dictionary α) (keep : String → α → Bool) : Dictionary α :=
  ⟨d.entries.filter fun entry => keep entry.1 entry.2, d.increasing.filter _⟩

def erase (d : Dictionary α) (key : String) : Dictionary α :=
  d.filter fun k _ => k != key

/-- The dictionary of a list of entries; the last entry of a key wins. -/
def ofList (entries : List (String × α)) : Dictionary α :=
  entries.foldl (fun d entry => d.insert entry.1 entry.2) empty

def mapValues (d : Dictionary α) (f : α → β) : Dictionary β :=
  ⟨d.entries.map fun entry => (entry.1, f entry.2),
    List.pairwise_map.mpr (d.increasing.imp id)⟩

@[simp] theorem get?_empty (key : String) : (empty : Dictionary α).get? key = none := rfl

theorem find?_insertEntry (key : String) (value : α) (k : String)
    (entries : List (String × α)) :
    ((insertEntry key value entries).find? fun entry => entry.1 == k).map Prod.snd =
      if k = key then some value
      else (entries.find? fun entry => entry.1 == k).map Prod.snd := by
  induction entries with
  | nil =>
    by_cases h : key = k
    · simp [insertEntry, h]
    · simp [insertEntry, h, Ne.symm h]
  | cons head rest ih =>
    obtain ⟨k', v⟩ := head
    unfold insertEntry
    split
    · by_cases h : key = k
      · simp [h]
      · simp [List.find?_cons, h, Ne.symm h]
    split
    · rename_i hgt
      by_cases hk' : k' = k
      · have : ¬k = key := by
          rintro rfl
          exact String.lt_irrefl _ (hk' ▸ hgt)
        simp [hk', this]
      · have hne : (k' == k) = false := by simpa using hk'
        simpa [List.find?_cons, hne] using ih
    · rename_i hnlt hngt
      obtain rfl := String.le_antisymm (String.not_lt.mp hngt) (String.not_lt.mp hnlt)
      by_cases h : key = k
      · simp [h]
      · simp [h, Ne.symm h]

/-- A look-up after an insertion sees the inserted value under its key and the
old dictionary elsewhere. -/
theorem get?_insert (d : Dictionary α) (key : String) (value : α) (k : String) :
    (d.insert key value).get? k = if k = key then some value else d.get? k :=
  find?_insertEntry key value k d.entries

/-- Filtering keeps a look-up exactly when its entry passes. -/
theorem get?_filter (d : Dictionary α) (keep : String → α → Bool) (k : String) :
    (d.filter keep).get? k = (d.get? k).filter (keep k) := by
  obtain ⟨entries, h⟩ := d
  simp only [get?, filter]
  induction entries with
  | nil => rfl
  | cons head rest ih =>
    obtain ⟨k', v⟩ := head
    obtain ⟨hhead, hrest⟩ := List.pairwise_cons.mp h
    by_cases hk : k' = k
    · subst hk
      have absent : rest.find? (fun entry => entry.1 == k') = none := by
        refine List.find?_eq_none.mpr fun entry hmem heq => ?_
        have hlt := hhead entry hmem
        simp only [beq_iff_eq] at heq
        exact String.lt_irrefl _ (heq ▸ hlt)
      have ih := ih hrest
      simp only [absent, Option.map_none, Option.filter_none] at ih
      by_cases hkeep : keep k' v
      · simp [hkeep, Option.filter]
      · rw [List.filter_cons_of_neg (by simpa using hkeep), ih]
        simp [hkeep, Option.filter]
    · have hne : (k' == k) = false := by simpa using hk
      by_cases hkeep : keep k' v
      · simpa [List.filter_cons, hkeep, List.find?_cons, hne] using ih hrest
      · simpa [List.filter_cons, hkeep, List.find?_cons, hne] using ih hrest

theorem mem_keys_iff {d : Dictionary α} {key : String} : key ∈ d.keys ↔ d.contains key = true := by
  simp [keys, contains, get?, List.find?_isSome]

theorem pairwise_keys (d : Dictionary α) : d.keys.Pairwise (· < ·) :=
  List.pairwise_map.mpr d.increasing

theorem get?_erase (d : Dictionary α) (key k : String) :
    (d.erase key).get? k = if k = key then none else d.get? k := by
  rw [erase, get?_filter]
  by_cases h : k = key <;> cases d.get? k <;> simp [h, Option.filter]

end Dictionary

end EntityEngine
