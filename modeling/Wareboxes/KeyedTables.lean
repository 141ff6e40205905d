import Mathlib

/-!
# Tables whose rows are told apart by a key

A relational table is a list of rows in insertion order, together with the
proof that no two rows share the primary key. Inserting a taken key is
refused, an update rewrites the rows its predicate selects and cannot touch
the key, and a lookup sees every table through its key alone.
-/

namespace Wareboxes.KeyedTables

open List

/-- Rows in insertion order with pairwise distinct keys. -/
structure KeyedTable {Row Key : Type} (key : Row → Key) where
  /-- The stored rows, oldest first. -/
  rows : List Row
  /-- The primary key constraint. -/
  nodup : (rows.map key).Nodup

namespace KeyedTable

variable {Row Key : Type} {key : Row → Key}

/-- The table without rows. -/
def empty : KeyedTable key := ⟨[], List.nodup_nil⟩

/-- The rows an SQL predicate selects are counted before they are rewritten. -/
def countWhere (table : KeyedTable key) (selects : Row → Bool) : ℕ :=
  table.rows.countP selects

/-- Rewrite every selected row. The rewriting keeps the key of each row. -/
def updateWhere (table : KeyedTable key) (selects : Row → Bool) (rewrite : Row → Row)
    (hkey : ∀ row, key (rewrite row) = key row) : KeyedTable key :=
  ⟨table.rows.map fun row => if selects row then rewrite row else row, by
    have hsame : (table.rows.map fun row => if selects row then rewrite row else row).map key =
        table.rows.map key := by
      rw [List.map_map]
      apply List.map_congr_left
      intro row _
      dsimp only [Function.comp]
      split
      · exact hkey row
      · rfl
    rw [hsame]
    exact table.nodup⟩

/-- An update rewrites the rows it selects. -/
@[simp] theorem updateWhere_rows (table : KeyedTable key) (selects : Row → Bool)
    (rewrite : Row → Row) (hkey : ∀ row, key (rewrite row) = key row) :
    (table.updateWhere selects rewrite hkey).rows =
      table.rows.map fun row => if selects row then rewrite row else row := rfl

variable {rewrite : Row → Row} {hkey : ∀ row, key (rewrite row) = key row} {selects : Row → Bool}
  {rows rows' : List Row} {field : Row → Key}

/-- An update that selects no row changes nothing. -/
theorem updateWhere_eq_self (table : KeyedTable key) (h : ∀ row ∈ table.rows, selects row = false) :
    table.updateWhere selects rewrite hkey = table := by
  obtain ⟨rows, hnodup⟩ := table
  have hsame : (rows.map fun row => if selects row then rewrite row else row) = rows := by
    conv_rhs => rw [← map_id rows]
    apply map_congr_left
    intro row hrow
    rw [h row hrow]
    rfl
  simp only [updateWhere, hsame]

/-- Remove every selected row. -/
def deleteWhere (table : KeyedTable key) (selects : Row → Bool) : KeyedTable key :=
  ⟨table.rows.filter fun row => !selects row,
    table.nodup.sublist (List.filter_sublist.map key)⟩

variable {table : KeyedTable key} {row : Row}

/-- The rows that a deletion does not select are left. -/
theorem mem_deleteWhere :
    row ∈ (table.deleteWhere selects).rows ↔ row ∈ table.rows ∧ selects row = false := by
  simp only [deleteWhere, mem_filter, Bool.not_eq_eq_eq_not, Bool.not_true]

/-- A table is its rows. -/
theorem eq_of_rows {first second : KeyedTable key} (h : first.rows = second.rows) :
    first = second := by
  cases first
  cases h
  rfl

/-- Two rows with one key are the same row. -/
theorem eq_of_key_eq (table : KeyedTable key) {first second : Row}
    (hf : first ∈ table.rows) (hs : second ∈ table.rows) (hk : key first = key second) :
    first = second :=
  inj_on_of_nodup_map table.nodup hf hs hk

/-- A sorted selection names each key once. -/
theorem nodup_selection (table : KeyedTable key) (selects : Row → Bool) (order : Row → Row → Prop)
    [DecidableRel order] : (((table.rows.filter selects).insertionSort order).map key).Nodup := by
  have hperm := (perm_insertionSort order (table.rows.filter selects)).map key
  rw [hperm.nodup_iff]
  exact table.nodup.sublist (List.filter_sublist.map key)

/-- The rows with a value in a field, after a row with the value was appended. -/
theorem filter_concat_self [DecidableEq Key] {k : Key} (hrows : rows' = rows ++ [row])
    (hrow : field row = k) : (rows'.filter fun row => decide (field row = k)) =
      (rows.filter fun row => decide (field row = k)) ++ [row] := by
  rw [hrows, filter_append]
  simp [hrow]

/-- The rows with a value in a field, after a row with another value was appended. -/
theorem filter_concat_other [DecidableEq Key] {k : Key} (hrows : rows' = rows ++ [row])
    (hrow : field row ≠ k) : (rows'.filter fun row => decide (field row = k)) =
      rows.filter fun row => decide (field row = k) := by
  rw [hrows, filter_append]
  simp [hrow]

variable {guard : Row → Bool} {k : Key}

section Lookup

variable [DecidableEq Key]

/-- The row stored under a key. -/
def find? (table : KeyedTable key) (k : Key) : Option Row :=
  table.rows.find? fun row => decide (key row = k)

/-- The row found is the row that has the key. -/
theorem find?_eq_some : table.find? k = some row ↔ row ∈ table.rows ∧ key row = k := by
  constructor
  · intro h
    exact ⟨mem_of_find?_eq_some h, by simpa using find?_some h⟩
  · rintro ⟨hm, hk⟩
    cases hf : table.find? k with
    | none =>
      have hn := List.find?_eq_none.mp hf row hm
      simp only [hk, decide_true, not_true_eq_false] at hn
    | some other =>
      have ho := mem_of_find?_eq_some hf
      have hok : key other = k := by simpa using find?_some hf
      rw [table.eq_of_key_eq ho hm (hok.trans hk.symm)]

/-- Nothing is found where no row has the key. -/
theorem find?_eq_none : table.find? k = none ↔ ∀ row ∈ table.rows, key row ≠ k := by
  unfold find?
  rw [List.find?_eq_none]
  simp only [decide_eq_true_eq, ne_eq]

/-- A row is found under its key. -/
theorem find?_of_mem (hm : row ∈ table.rows) : table.find? (key row) = some row :=
  find?_eq_some.mpr ⟨hm, rfl⟩

/-- A query that sorts selects stored rows. -/
theorem mem_selection {selects : Row → Bool} {order : Row → Row → Prop} [DecidableRel order] :
    row ∈ (table.rows.filter selects).insertionSort order ↔
      table.find? (key row) = some row ∧ selects row = true := by
  rw [mem_insertionSort, mem_filter, find?_eq_some, and_iff_left rfl]

/-- The row found has the key looked for. -/
theorem key_of_find? (h : table.find? k = some row) : key row = k :=
  (find?_eq_some.mp h).2

/-- Append a row, unless its key is taken. -/
def insert? (table : KeyedTable key) (row : Row) : Option (KeyedTable key) :=
  if h : key row ∈ table.rows.map key then none
  else some ⟨table.rows ++ [row], by
    rw [List.map_append, List.map_singleton]
    exact List.nodup_append.mpr ⟨table.nodup, List.nodup_singleton _, by
      intro k hk other ho
      rw [List.mem_singleton] at ho
      subst ho
      exact fun he => h (he ▸ hk)⟩⟩

/-- An insertion needs a new key, and puts the row last. -/
theorem insert?_eq_some {table table' : KeyedTable key} (h : table.insert? row = some table') :
    table.find? (key row) = none ∧ table'.rows = table.rows ++ [row] := by
  unfold insert? at h
  split_ifs at h with hk
  cases h
  refine ⟨find?_eq_none.mpr fun other ho he => hk ?_, rfl⟩
  exact List.mem_map.mpr ⟨other, ho, he⟩

/-- The rows after an insertion. -/
theorem mem_insert {table table' : KeyedTable key} {other : Row}
    (h : table.insert? row = some table') :
    other ∈ table'.rows ↔ other ∈ table.rows ∨ other = row := by
  rw [(insert?_eq_some h).2, mem_append, mem_singleton]

/-- A row with a new key can be inserted. -/
theorem insert?_of_find?_none
    (h : table.find? (key row) = none) : ∃ table', table.insert? row = some table' := by
  have hk : ¬key row ∈ table.rows.map key := by
    intro hm
    obtain ⟨other, ho, he⟩ := List.mem_map.mp hm
    exact find?_eq_none.mp h other ho he
  exact ⟨_, dif_neg hk⟩

/-- What is found after an insertion. -/
theorem find?_insert {table table' : KeyedTable key}
    (h : table.insert? row = some table') (k : Key) :
    table'.find? k = if k = key row then some row else table.find? k := by
  split_ifs with hk
  · rw [hk]
    exact find?_of_mem ((mem_insert h).mpr (.inr rfl))
  · cases hf : table.find? k with
    | none =>
      rw [find?_eq_none] at hf ⊢
      intro other ho
      rcases (mem_insert h).mp ho with ho | rfl
      · exact hf other ho
      · exact fun he => hk he.symm
    | some =>
      obtain ⟨hm, hok⟩ := find?_eq_some.mp hf
      exact find?_eq_some.mpr ⟨(mem_insert h).mpr (.inl hm), hok⟩

/-- Lookups after an update see the rewritten row. -/
theorem find?_updateWhere (table : KeyedTable key) (selects : Row → Bool) (k : Key) :
    (table.updateWhere selects rewrite hkey).find? k =
      (table.find? k).map fun row => if selects row then rewrite row else row := by
  cases hf : table.find? k with
  | none =>
    rw [Option.map_none, find?_eq_none]
    rw [find?_eq_none] at hf
    intro row hr
    obtain ⟨old, ho, rfl⟩ := List.mem_map.mp hr
    split
    · rw [hkey]; exact hf old ho
    · exact hf old ho
  | some row =>
    obtain ⟨hm, hk⟩ := find?_eq_some.mp hf
    refine find?_eq_some.mpr ⟨List.mem_map.mpr ⟨row, hm, rfl⟩, ?_⟩
    dsimp only
    split
    · rw [hkey]; exact hk
    · exact hk

/-- Rows are counted by their keys. -/
theorem countP_key (table : KeyedTable key) (k : Key) :
    table.rows.countP (fun row => decide (key row = k)) = (table.rows.map key).count k := by
  rw [List.count, countP_map]
  exact countP_congr fun row _ => by simp

/-- At most one row has a key. -/
theorem countP_key_le_one (table : KeyedTable key) (k : Key) :
    table.rows.countP (fun row => decide (key row = k)) ≤ 1 := by
  rw [countP_key]
  exact List.nodup_iff_count_le_one.mp table.nodup k

/-- The key of a row is counted once. -/
theorem countP_key_eq_one (hm : row ∈ table.rows) :
    table.rows.countP (fun other => decide (key other = key row)) = 1 := by
  rw [countP_key]
  exact count_eq_one_of_mem table.nodup (List.mem_map.mpr ⟨row, hm, rfl⟩)

/-- Selecting by key and a further condition selects at most the one stored row. -/
theorem countWhere_key_of_find? (h : table.find? k = some row) (guard : Row → Bool) :
    table.countWhere (fun other => decide (key other = k) && guard other) =
      if guard row then 1 else 0 := by
  obtain ⟨hm, rfl⟩ := find?_eq_some.mp h
  have hone := countP_key_eq_one hm
  unfold countWhere
  split_ifs with hg
  · rw [← hone]
    refine countP_congr fun other ho => ?_
    simp only [Bool.and_eq_true, decide_eq_true_eq, and_iff_left_iff_imp]
    intro he
    rw [table.eq_of_key_eq ho hm he]
    exact hg
  · rw [countP_eq_zero]
    intro other ho
    simp only [Bool.and_eq_true, decide_eq_true_eq, not_and]
    intro he
    rw [table.eq_of_key_eq ho hm he]
    exact hg

/-- No guard counts a row of a key that is missing. -/
theorem countWhere_key_of_find?_none (h : table.find? k = none) (guard : Row → Bool) :
    table.countWhere (fun other => decide (key other = k) && guard other) = 0 := by
  refine List.countP_eq_zero.mpr fun other ho => ?_
  have hne := find?_eq_none.mp h other ho
  simp only [hne, decide_false, Bool.false_and, Bool.false_eq_true, not_false_eq_true]

/-- The row found is the only one with its key. -/
theorem eq_of_find? {row other : Row}
    (h : table.find? k = some row) (ho : other ∈ table.rows) (hk : key other = k) :
    other = row := by
  obtain ⟨hm, hrow⟩ := find?_eq_some.mp h
  exact table.eq_of_key_eq ho hm (hk.trans hrow.symm)

/-- An update by key and a condition that the stored row meets is an update by key. -/
theorem updateWhere_key_rows (h : table.find? k = some row) (hg : guard row = true) :
    (table.updateWhere (fun other => decide (key other = k) && guard other) rewrite hkey).rows =
      table.rows.map fun other => if key other = k then rewrite other else other := by
  refine map_congr_left fun other ho => ?_
  by_cases hk : key other = k
  · rw [eq_of_find? h ho hk]
    simp only [hg, Bool.and_true, decide_eq_true_eq]
  · simp only [hk, decide_false, Bool.false_and, Bool.false_eq_true, if_false]

/-- An update by key and a condition that the stored row does not meet changes nothing. -/
theorem updateWhere_key_eq_self (h : table.find? k = some row) (hg : guard row = false) :
    table.updateWhere (fun other => decide (key other = k) && guard other) rewrite hkey =
      table := by
  refine updateWhere_eq_self table fun other ho => ?_
  by_cases hk : key other = k
  · rw [eq_of_find? h ho hk]
    simp only [hg, Bool.and_false]
  · simp only [hk, decide_false, Bool.false_and]

/-- An SQL update by primary key and a further condition, which the caller
requires to change exactly one row. -/
def updateOne? (table : KeyedTable key) (k : Key) (guard : Row → Bool) (rewrite : Row → Row)
    (hkey : ∀ row, key (rewrite row) = key row) : Option (KeyedTable key) :=
  if table.countWhere (fun row => decide (key row = k) && guard row) = 1 then
    some (table.updateWhere (fun row => decide (key row = k) && guard row) rewrite hkey)
  else none

/-- The update succeeds exactly when the stored row meets the condition, and rewrites it. -/
theorem updateOne?_eq_some {table table' : KeyedTable key}
    (h : table.updateOne? k guard rewrite hkey = some table') :
    ∃ row, table.find? k = some row ∧ guard row = true ∧
      table'.rows = table.rows.map fun other => if key other = k then rewrite other else other := by
  unfold updateOne? at h
  split_ifs at h with hcount
  cases h
  cases hf : table.find? k with
  | none => rw [countWhere_key_of_find?_none hf] at hcount; omega
  | some row =>
    rw [countWhere_key_of_find? hf] at hcount
    have hg : guard row = true := by
      by_contra hg
      rw [if_neg hg] at hcount
      omega
    exact ⟨row, rfl, hg, updateWhere_key_rows hf hg⟩

/-- Lookups after an update of one row. -/
theorem find?_updateOne {table table' : KeyedTable key} (hkey : ∀ row, key (rewrite row) = key row)
    (hrow : table.find? k = some row)
    (hrows : table'.rows = table.rows.map
      fun other => if key other = k then rewrite other else other)
    (j : Key) : table'.find? j = if j = k then some (rewrite row) else table.find? j := by
  have hsame : table' = table.updateWhere (fun other => decide (key other = k)) rewrite hkey := by
    apply eq_of_rows
    simp only [hrows, updateWhere_rows, decide_eq_true_eq]
  rw [hsame, find?_updateWhere]
  split_ifs with hj
  · subst hj
    rw [hrow]
    simp only [Option.map_some, key_of_find? hrow, decide_true, if_true]
  · cases hf : table.find? j with
    | none => rfl
    | some other =>
      have hne : key other ≠ k := by
        rw [key_of_find? hf]
        exact hj
      simp only [Option.map_some, hne, decide_false, Bool.false_eq_true, if_false]

/-- Lookups after an update by primary key. -/
theorem find?_updateWhere_key (hrow : table.find? k = some row) (j : Key) :
    (table.updateWhere (fun other => decide (key other = k)) rewrite hkey).find? j =
      if j = k then some (rewrite row) else table.find? j := by
  refine find?_updateOne hkey hrow ?_ j
  simp only [updateWhere_rows, decide_eq_true_eq]

/-- A stored row that meets the condition admits the update. -/
theorem updateOne?_of_find? (h : table.find? k = some row) (hg : guard row = true) :
    ∃ table', table.updateOne? k guard rewrite hkey = some table' := by
  unfold updateOne?
  rw [countWhere_key_of_find? h, if_pos hg, if_pos rfl]
  exact ⟨_, rfl⟩

/-- Without a stored row that meets the condition the update is refused. -/
theorem updateOne?_eq_none (h : ∀ row, table.find? k = some row → guard row = false) :
    table.updateOne? k guard rewrite hkey = none := by
  unfold updateOne?
  cases hf : table.find? k with
  | none =>
    rw [countWhere_key_of_find?_none hf]
    rfl
  | some row =>
    rw [countWhere_key_of_find? hf, h row hf]
    rfl

/-- An SQL update by primary key. -/
def rewriteRow (table : KeyedTable key) (k : Key) (rewrite : Row → Row)
    (hkey : ∀ row, key (rewrite row) = key row) : KeyedTable key :=
  table.updateWhere (fun row => decide (key row = k)) rewrite hkey

/-- One row is rewritten, the one with the key. -/
theorem rewriteRow_rows (table : KeyedTable key) (k : Key) :
    (table.rewriteRow k rewrite hkey).rows =
      table.rows.map fun row => if key row = k then rewrite row else row := by
  simp only [rewriteRow, updateWhere_rows, decide_eq_true_eq]

/-- The rows after one of them was rewritten. -/
theorem mem_map_key_iff (hrow : row ∈ table.rows) (other : Row) :
    (other ∈ table.rows.map fun stored => if key stored = key row then rewrite stored else stored) ↔
      other = rewrite row ∨ other ∈ table.rows ∧ key other ≠ key row := by
  rw [mem_map]
  constructor
  · rintro ⟨stored, hstored, rfl⟩
    by_cases hsame : key stored = key row
    · obtain rfl := table.eq_of_key_eq hstored hrow hsame
      exact .inl (if_pos rfl)
    · rw [if_neg hsame]
      exact .inr ⟨hstored, hsame⟩
  · rintro (rfl | ⟨hother, hne⟩)
    · exact ⟨row, hrow, if_pos rfl⟩
    · exact ⟨other, hother, if_neg hne⟩

end Lookup

end KeyedTable

end Wareboxes.KeyedTables
