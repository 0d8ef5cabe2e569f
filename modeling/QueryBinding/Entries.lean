/-!
Insertion-ordered entries: a key has one value, writing to a key that is there keeps its place, and
a new key goes last.
-/
namespace QueryBinding.Entries

/-- The entries after `value` is written under `key`. -/
def put (key : String) (value : β) : List (String × β) → List (String × β)
  | [] => [(key, value)]
  | entry :: entries =>
    if entry.1 = key then (key, value) :: entries else entry :: put key value entries

/-- The entries that writing `pairs` in turn gives. -/
def putAll (entries pairs : List (String × β)) : List (String × β) :=
  pairs.foldl (fun entries pair => put pair.1 pair.2 entries) entries

def keys (entries : List (String × β)) : List String := entries.map (·.1)

theorem lookup_put_self (key : String) (value : β) (entries : List (String × β)) :
    (put key value entries).lookup key = some value := by
  induction entries with
  | nil => simp [put]
  | cons entry entries ih =>
    by_cases h : entry.1 = key
    · simp [put, h]
    · simp only [put, h, if_false]
      obtain ⟨k, v⟩ := entry
      have : (key == k) = false := by simpa using fun e => h e.symm
      simp [List.lookup_cons, this, ih]

theorem mem_keys_put {key k : String} {value : β} {entries : List (String × β)} :
    k ∈ keys (put key value entries) ↔ k = key ∨ k ∈ keys entries := by
  induction entries with
  | nil => simp [put, keys]
  | cons entry entries ih =>
    by_cases h : entry.1 = key
    · simp only [put, h, if_true, keys, List.map_cons, List.mem_cons]
      grind
    · simp only [put, h, if_false, keys, List.map_cons, List.mem_cons] at ih ⊢
      grind

theorem nodup_keys_put {key : String} {value : β} {entries : List (String × β)}
    (h : (keys entries).Nodup) : (keys (put key value entries)).Nodup := by
  induction entries with
  | nil => simp [put, keys]
  | cons entry entries ih =>
    simp only [keys, List.map_cons, List.nodup_cons] at h
    by_cases same : entry.1 = key
    · simp only [put, same, if_true, keys, List.map_cons, List.nodup_cons]
      exact ⟨by simpa [same] using h.1, h.2⟩
    · simp only [put, same, if_false, keys, List.map_cons, List.nodup_cons]
      refine ⟨fun mem => ?_, ih h.2⟩
      rcases mem_keys_put.1 mem with e | e
      · exact same e
      · exact h.1 e

theorem nodup_keys_putAll {pairs entries : List (String × β)} (h : (keys entries).Nodup) :
    (keys (putAll entries pairs)).Nodup := by
  induction pairs generalizing entries with
  | nil => exact h
  | cons pair pairs ih => exact ih (nodup_keys_put h)

end QueryBinding.Entries
