import QueryBinding.Entries
/-!
Looking entries up: what is found is an entry, and of pairs that are written in turn the last one
under a key is found.
-/
namespace QueryBinding.Entries

variable {entries : List (String × β)} {key : String} {value : β}

theorem mem_of_lookup (found : entries.lookup key = some value) : (key, value) ∈ entries := by
  obtain ⟨before, after, rfl, _⟩ := List.lookup_eq_some_iff.1 found
  exact List.mem_append_right _ List.mem_cons_self

theorem lookup_eq_none {names : List String} (named : ∀ entry ∈ entries, entry.1 ∈ names)
    (other : key ∉ names) : entries.lookup key = none := by
  rw [List.lookup_eq_none_iff]
  intro entry mem
  exact bne_iff_ne.2 fun same => other (same ▸ named entry mem)

theorem lookup_of_mem (nodup : (keys entries).Nodup) (mem : (key, value) ∈ entries) :
    entries.lookup key = some value := by
  induction entries with
  | nil => cases mem
  | cons entry entries ih =>
    rw [keys, List.map_cons, List.nodup_cons] at nodup
    rcases List.mem_cons.1 mem with rfl | mem
    · exact List.lookup_cons_self
    · have differs : key ≠ entry.1 := by
        rintro rfl
        exact nodup.1 (List.mem_map.2 ⟨_, mem, rfl⟩)
      rw [List.lookup_cons, beq_eq_false_iff_ne.2 differs]
      exact ih nodup.2 mem

theorem mem_keys_iff {entries : List (String × β)} {key : String} :
    key ∈ keys entries ↔ ∃ value, entries.lookup key = some value := by
  constructor
  · intro mem
    cases found : entries.lookup key with
    | some value => exact ⟨value, rfl⟩
    | none =>
      obtain ⟨entry, known, rfl⟩ := List.mem_map.1 mem
      exact absurd rfl (bne_iff_ne.1 (List.lookup_eq_none_iff.1 found entry known))
  · rintro ⟨value, found⟩
    exact List.mem_map.2 ⟨_, mem_of_lookup found, rfl⟩

/-- Where every key stands once, the order of the entries does not matter. -/
theorem lookup_of_perm {others : List (String × β)} (nodup : (keys entries).Nodup)
    (same : entries.Perm others) (key : String) : entries.lookup key = others.lookup key := by
  have nodup' : (keys others).Nodup := (same.map Prod.fst).nodup_iff.1 nodup
  refine Option.ext fun value => ⟨fun found => ?_, fun found => ?_⟩
  · exact lookup_of_mem nodup' (same.mem_iff.1 (mem_of_lookup found))
  · exact lookup_of_mem nodup (same.mem_iff.2 (mem_of_lookup found))

/-- Under new names everything is found as before, if no other key gets the name that is looked up. -/
theorem lookup_map (rename : String → String) (f : β → γ)
    (apart : ∀ entry ∈ entries, rename entry.1 = rename key → entry.1 = key) :
    (entries.map fun (k, v) => (rename k, f v)).lookup (rename key) =
      (entries.lookup key).map f := by
  induction entries with
  | nil => rfl
  | cons entry entries ih =>
    obtain ⟨first, held⟩ := entry
    have rest := ih fun entry mem => apart entry (List.mem_cons_of_mem _ mem)
    by_cases same : key = first
    · subst same
      simp
    · have differs : rename key ≠ rename first := by
        intro renamed
        exact same (apart _ List.mem_cons_self renamed.symm).symm
      simp only [List.map_cons, List.lookup_cons, beq_eq_false_iff_ne.2 differs,
        beq_eq_false_iff_ne.2 same]
      exact rest

theorem lookup_map_snd (f : β → γ) (entries : List (String × β)) (key : String) :
    (entries.map fun (k, v) => (k, f v)).lookup key = (entries.lookup key).map f :=
  lookup_map id f fun _ _ same => same

/-! ### Writing -/

theorem lookup_put_of_ne {k : String} (differs : k ≠ key) (entries : List (String × β)) :
    (put key value entries).lookup k = entries.lookup k := by
  have other : (k == key) = false := beq_eq_false_iff_ne.2 differs
  induction entries with
  | nil => simp only [put, List.lookup_cons, other]
  | cons entry entries ih =>
    obtain ⟨first, held⟩ := entry
    by_cases same : first = key
    · subst same
      simp only [put, if_true, List.lookup_cons, other]
    · simp only [put, same, if_false, List.lookup_cons, ih]

theorem lookup_put (k : String) (entries : List (String × β)) :
    (put key value entries).lookup k = ([(key, value)].lookup k).or (entries.lookup k) := by
  by_cases same : k = key
  · subst same
    rw [lookup_put_self, List.lookup_cons_self]
    rfl
  · rw [lookup_put_of_ne same, List.lookup_cons, beq_eq_false_iff_ne.2 same]
    rfl

theorem mem_put {entry : String × β} (mem : entry ∈ put key value entries) :
    entry = (key, value) ∨ entry ∈ entries := by
  induction entries with
  | nil => exact .inl (List.mem_singleton.1 mem)
  | cons first entries ih =>
    obtain ⟨k, held⟩ := first
    rw [put] at mem
    split at mem
    · rcases List.mem_cons.1 mem with rfl | mem
      · exact .inl (by simp_all)
      · exact .inr (List.mem_cons_of_mem _ mem)
    · rcases List.mem_cons.1 mem with rfl | mem
      · exact .inr List.mem_cons_self
      · exact (ih mem).imp id (List.mem_cons_of_mem _)

theorem lookup_putAll (k : String) (entries pairs : List (String × β)) :
    (putAll entries pairs).lookup k = (pairs.reverse.lookup k).or (entries.lookup k) := by
  induction pairs generalizing entries with
  | nil => rfl
  | cons pair pairs ih =>
    have step := ih (put pair.1 pair.2 entries)
    rw [putAll, List.foldl_cons, ← putAll, step, lookup_put, List.reverse_cons, List.lookup_append,
      Option.or_assoc]

theorem put_of_not_mem (absent : key ∉ keys entries) :
    put key value entries = entries ++ [(key, value)] := by
  induction entries with
  | nil => rfl
  | cons entry entries ih =>
    rw [keys, List.map_cons, List.mem_cons, not_or] at absent
    rw [put, if_neg fun same => absent.1 same.symm, ih absent.2, List.cons_append]

theorem putAll_append (entries pairs more : List (String × β)) :
    putAll entries (pairs ++ more) = putAll (putAll entries pairs) more := List.foldl_append

/-- Pairs with different new keys go last as they are. -/
theorem putAll_of_nodup {pairs : List (String × β)} (nodup : (keys (entries ++ pairs)).Nodup) :
    putAll entries pairs = entries ++ pairs := by
  induction pairs generalizing entries with
  | nil => exact (List.append_nil entries).symm
  | cons pair pairs ih =>
    have moved : entries ++ pair :: pairs = (entries ++ [pair]) ++ pairs := List.append_cons ..
    rw [moved] at nodup
    have absent : pair.1 ∉ keys entries := by
      intro mem
      rw [keys, List.map_append, List.map_append] at nodup
      have apart := (List.nodup_append.1 (List.nodup_append.1 nodup).1).2.2
      exact apart _ mem _ List.mem_cons_self rfl
    have step := ih nodup
    rw [← put_of_not_mem absent] at step
    rw [moved, ← put_of_not_mem absent]
    exact step

theorem putAll_putAll_nil (pairs : List (String × β)) :
    putAll [] (putAll [] pairs) = putAll [] pairs :=
  putAll_of_nodup (nodup_keys_putAll List.nodup_nil)

/-! ### Mapping -/

theorem put_map (f : β → γ) (key : String) (value : β) (entries : List (String × β)) :
    put key (f value) (entries.map (Prod.map id f)) =
      (put key value entries).map (Prod.map id f) := by
  induction entries with
  | nil => rfl
  | cons entry entries ih =>
    by_cases same : entry.1 = key
    · simp [put, same]
    · simp [put, same, ih]

theorem putAll_map (f : β → γ) (entries pairs : List (String × β)) :
    putAll (entries.map (Prod.map id f)) (pairs.map (Prod.map id f)) =
      (putAll entries pairs).map (Prod.map id f) := by
  induction pairs generalizing entries with
  | nil => rfl
  | cons pair pairs ih =>
    have step := ih (put pair.1 pair.2 entries)
    rw [← put_map] at step
    exact step

end QueryBinding.Entries
