import Mathlib.Data.List.Nodup
import SqlGateway.Assoc

/-! Entries whose names are distinct. Putting an entry leaves them so or not, and entries with
distinct names are all that can be told of a list of entries by asking for one name after the other.
Of many pairs put one after the other each name keeps its first place and its last content. -/
namespace SqlGateway.Assoc

variable {α : Type} {name : String} {a : α} {entries pairs : List (String × α)}

@[simp] theorem names_nil : names ([] : List (String × α)) = [] := rfl

@[simp] theorem names_cons (entry : String × α) (rest : List (String × α)) :
    names (entry :: rest) = entry.1 :: names rest := rfl

@[simp] theorem names_append (rest : List (String × α)) :
    names (entries ++ rest) = names entries ++ names rest := List.map_append

theorem put_of_mem_names (h : name ∈ names entries) :
    names (put name a entries) = names entries := by
  induction entries with
  | nil => cases h
  | cons entry rest ih =>
      obtain ⟨other, b⟩ := entry
      rw [put]
      split
      · rfl
      · next hne =>
          have hrest : name ∈ names rest := (List.mem_cons.mp h).resolve_left (Ne.symm hne)
          rw [names_cons, names_cons, ih hrest]

theorem put_of_notMem_names (h : name ∉ names entries) :
    put name a entries = entries ++ [(name, a)] := by
  induction entries with
  | nil => rfl
  | cons entry rest ih =>
      obtain ⟨other, b⟩ := entry
      rw [names_cons, List.mem_cons, not_or] at h
      rw [put, if_neg (Ne.symm h.1), ih h.2, List.cons_append]

theorem nodup_names_put : (names (put name a entries)).Nodup ↔ (names entries).Nodup := by
  by_cases hmem : name ∈ names entries
  · rw [put_of_mem_names hmem]
  · rw [put_of_notMem_names hmem, names_append]
    constructor
    · intro h
      exact (List.nodup_append.mp h).1
    · intro h
      refine List.nodup_append.mpr ⟨h, List.nodup_singleton _, ?_⟩
      intro other hother last hlast heq
      have hname : last = name := List.mem_singleton.mp hlast
      rw [heq, hname] at hother
      exact hmem hother

theorem nodup_names_putAll (pairs : List (String × α)) (h : (names entries).Nodup) :
    (names (putAll pairs entries)).Nodup := by
  induction pairs generalizing entries with
  | nil => exact h
  | cons pair pairs ih => exact ih (nodup_names_put.mpr h)

theorem nodup_names_ofPairs (pairs : List (String × α)) : (names (ofPairs pairs)).Nodup :=
  nodup_names_putAll pairs List.nodup_nil

/-- Pairs with new and distinct names are appended as they are. -/
theorem putAll_of_nodup_names (h : (names (entries ++ pairs)).Nodup) :
    putAll pairs entries = entries ++ pairs := by
  induction pairs generalizing entries with
  | nil => rw [List.append_nil]; rfl
  | cons pair pairs ih =>
      have hassoc : entries ++ pair :: pairs = (entries ++ [pair]) ++ pairs := by
        rw [List.append_assoc, List.singleton_append]
      have hfresh : pair.1 ∉ names entries := by
        intro hmem
        rw [names_append, names_cons] at h
        exact (List.nodup_append.mp h).2.2 _ hmem _ List.mem_cons_self rfl
      rw [hassoc] at h ⊢
      have hput : put pair.1 pair.2 entries = entries ++ [pair] := put_of_notMem_names hfresh
      rw [← ih h, ← hput]
      rfl

theorem ofPairs_of_nodup_names (h : (names pairs).Nodup) : ofPairs pairs = pairs :=
  putAll_of_nodup_names h

theorem get?_of_notMem_names (h : name ∉ names entries) : get? name entries = none := by
  induction entries with
  | nil => rfl
  | cons entry rest ih =>
      obtain ⟨other, b⟩ := entry
      rw [names_cons, List.mem_cons, not_or] at h
      rw [get?, if_neg (Ne.symm h.1), ih h.2]

theorem mem_of_get? (h : get? name entries = some a) : (name, a) ∈ entries := by
  induction entries with
  | nil => cases h
  | cons entry rest ih =>
      obtain ⟨other, b⟩ := entry
      rw [get?] at h
      split at h
      · next heq =>
          cases h
          rw [heq]
          exact List.mem_cons_self
      · exact List.mem_cons_of_mem _ (ih h)

theorem get?_append (rest : List (String × α)) :
    get? name (entries ++ rest) = (get? name entries).or (get? name rest) := by
  induction entries with
  | nil => rfl
  | cons entry entries ih =>
      obtain ⟨other, b⟩ := entry
      rw [List.cons_append, get?, get?, ih]
      split
      · rfl
      · rfl

/-- An entry that is there only where it has a content. -/
theorem get?_toList_map {β : Type} (f : β → α) (other : String) (o : Option β) :
    get? name (o.map fun b => (other, f b)).toList = if other = name then o.map f else none := by
  cases o with
  | none => exact (ite_self none).symm
  | some b => rfl

/-- With distinct names each name is asked for with the content of its own entry. -/
theorem map_get?_names (h : (names entries).Nodup) :
    (names entries).map (get? · entries) = entries.map fun entry => some entry.2 := by
  induction entries with
  | nil => rfl
  | cons entry rest ih =>
      obtain ⟨name, a⟩ := entry
      rw [names_cons, List.nodup_cons] at h
      have hskip : ∀ other ∈ names rest, get? other ((name, a) :: rest) = get? other rest := by
        intro other hother
        have hne : name ≠ other := fun heq => h.1 (heq ▸ hother)
        rw [get?, if_neg hne]
      rw [names_cons, List.map_cons, List.map_cons, List.map_congr_left hskip, ih h.2, get?,
        if_pos rfl]

/-! ### Pairs put one after the other -/

theorem putAll_append (more : List (String × α)) :
    putAll (pairs ++ more) entries = putAll more (putAll pairs entries) := List.foldl_append

theorem removeAll_concat (others : List String) (last : String) (more : List String) :
    more.removeAll (others ++ [last]) =
      (more.removeAll others).filter fun name => !name == last := by
  rw [List.removeAll, List.removeAll, List.filter_filter]
  apply List.filter_congr
  intro name _
  simp [Bool.beq_eq_decide_eq, Bool.and_comm]

/-- The names that are there keep their places, and each new name follows where it first came. -/
theorem names_putAll : names (putAll pairs entries) =
    names entries ++ ((names pairs).removeAll (names entries)).eraseDups := by
  induction pairs generalizing entries with
  | nil => exact (List.append_nil _).symm
  | cons pair pairs ih =>
      have hput : putAll (pair :: pairs) entries = putAll pairs (put pair.1 pair.2 entries) := rfl
      rw [hput, ih, names_cons, List.cons_removeAll, List.contains_eq_mem]
      by_cases hmem : pair.1 ∈ names entries
      · rw [put_of_mem_names hmem]
        simp [hmem]
      · -- the names behind a new one are compared with it as well
        rw [put_of_notMem_names hmem, names_append, names_cons, names_nil, removeAll_concat]
        simp [hmem, List.eraseDups_cons]

theorem names_ofPairs (pairs : List (String × α)) :
    names (ofPairs pairs) = (names pairs).eraseDups := by
  rw [ofPairs, names_putAll, names_nil, List.removeAll_nil, List.nil_append]

/-- The content of the last pair with this name. -/
def last? (name : String) (pairs : List (String × α)) : Option α :=
  ((pairs.filter fun pair => pair.1 = name).getLast?).map Prod.snd

theorem last?_cons (pair : String × α) : last? name (pair :: pairs) =
    (last? name pairs).or (if pair.1 = name then some pair.2 else none) := by
  rw [last?, last?, List.filter_cons]
  split
  · next h =>
      rw [List.getLast?_cons, if_pos (of_decide_eq_true h)]
      cases (pairs.filter fun pair => pair.1 = name).getLast? <;> rfl
  · next h => rw [if_neg (h ∘ decide_eq_true), Option.or_none]

theorem get?_put (other : String) : get? other (put name a entries) =
    if name = other then some a else get? other entries := by
  induction entries with
  | nil => rfl
  | cons entry rest ih =>
      obtain ⟨first, b⟩ := entry
      rw [put]
      split
      · next h =>
          subst h
          rw [get?, get?]
          split <;> rfl
      · next h =>
          rw [get?, get?, ih]
          split
          · next hfirst => rw [if_neg (h ∘ (hfirst.trans ·.symm))]
          · rfl

/-- A name has the content of the last pair that names it, and else what it had. -/
theorem get?_putAll : get? name (putAll pairs entries) =
    (last? name pairs).or (get? name entries) := by
  induction pairs generalizing entries with
  | nil => rfl
  | cons pair pairs ih =>
      have hput : putAll (pair :: pairs) entries = putAll pairs (put pair.1 pair.2 entries) := rfl
      rw [hput, ih, get?_put, last?_cons, Option.or_assoc]
      split <;> rfl

theorem get?_ofPairs : get? name (ofPairs pairs) = last? name pairs := by
  rw [ofPairs, get?_putAll]
  exact Option.or_none

end SqlGateway.Assoc
