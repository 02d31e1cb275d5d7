import Powerlink.Od.ErrorHistory

/-! # The error history as a log

`write_error_to_history` puts an entry in front of the array `0x1003` and pops the last element
when more than 254 are left.  A run of writes therefore keeps the newest entries: it cuts at the
cap, or at the length the array started with when that was longer (`foldl_pushHistory`). -/

namespace Powerlink

variable {σ : Type}

/-! ### The array -/

/-- One write cuts at the cap; a longer array keeps its length. -/
theorem pushHistory_eq_take (values : List ObjectValue) (value : ObjectValue) :
    pushHistory values value = (value :: values).take (max maxHistoryEntries values.length) := by
  unfold pushHistory
  by_cases h : maxHistoryEntries < (value :: values).length
  · have hmax : max maxHistoryEntries values.length = (value :: values).length - 1 := by
      simp only [List.length_cons] at h ⊢
      omega
    rw [if_pos h, hmax, List.dropLast_eq_take]
  · have hmax : (value :: values).length ≤ max maxHistoryEntries values.length := by omega
    rw [if_neg h, List.take_of_length_le hmax]

/-- What was cut behind a prefix is not seen by a shorter cut of the whole. -/
theorem take_append_take {α : Type} (m : ℕ) (front back : List α) :
    (front ++ back.take m).take m = (front ++ back).take m := by
  rw [List.take_append, List.take_append, List.take_take, min_eq_left (by omega)]

/-- The array after a run of writes: the newest first, before what was there. -/
theorem foldl_pushHistory (written values : List ObjectValue) :
    written.foldl pushHistory values =
      (written.reverse ++ values).take (max maxHistoryEntries values.length) := by
  induction written generalizing values with
  | nil =>
      rw [List.foldl_nil, List.reverse_nil, List.nil_append, List.take_of_length_le (by omega)]
  | cons value written ih =>
      have hcap : max maxHistoryEntries (pushHistory values value).length =
          max maxHistoryEntries values.length := by
        rw [pushHistory_eq_take, List.length_take, List.length_cons]
        omega
      rw [List.foldl_cons, ih, hcap, pushHistory_eq_take, take_append_take, List.reverse_cons,
        List.append_assoc]
      rfl

/-! ### The dictionary -/

/-- A write leaves the other entries as they are. -/
theorem get?_writeErrorToHistory_ne (od : ObjectDictionary σ) (entry : ErrorEntry)
    {index : UInt16} (h : index ≠ 0x1003) :
    (writeErrorToHistory od entry).entries.get? index = od.entries.get? index := by
  unfold writeErrorToHistory
  dsimp only
  rw [SortedMap.get?_modify, if_neg h]

/-- A write changes the array of `0x1003` and no other attribute of the entry. -/
theorem get?_writeErrorToHistory {od : ObjectDictionary σ} {e : ObjectEntry}
    {values : List ObjectValue} (h : od.entries.get? 0x1003 = some { e with object := .array values })
    (entry : ErrorEntry) :
    (writeErrorToHistory od entry).entries.get? 0x1003 =
      some { e with object := .array (pushHistory values (.domain entry.serialize)) } := by
  unfold writeErrorToHistory
  dsimp only
  rw [SortedMap.get?_modify, if_pos rfl, h]
  rfl

/-- The dictionary after a run of writes, first to last. -/
def writeErrorsToHistory (od : ObjectDictionary σ) (written : List ErrorEntry) :
    ObjectDictionary σ :=
  written.foldl writeErrorToHistory od

/-- The objects that a run of writes puts into the array. -/
def historyValues (written : List ErrorEntry) : List ObjectValue :=
  written.map fun entry => .domain entry.serialize

theorem get?_writeErrorsToHistory_ne (od : ObjectDictionary σ) (written : List ErrorEntry)
    {index : UInt16} (h : index ≠ 0x1003) :
    (writeErrorsToHistory od written).entries.get? index = od.entries.get? index := by
  induction written generalizing od with
  | nil => rfl
  | cons entry written ih =>
      rw [← get?_writeErrorToHistory_ne od entry h]
      exact ih (writeErrorToHistory od entry)

theorem storage_writeErrorsToHistory (od : ObjectDictionary σ) (written : List ErrorEntry) :
    (writeErrorsToHistory od written).storage = od.storage := by
  induction written generalizing od with
  | nil => rfl
  | cons entry written ih => exact ih (writeErrorToHistory od entry)

theorem get?_writeErrorsToHistory {od : ObjectDictionary σ} {e : ObjectEntry}
    {values : List ObjectValue} (h : od.entries.get? 0x1003 = some { e with object := .array values })
    (written : List ErrorEntry) :
    (writeErrorsToHistory od written).entries.get? 0x1003 =
      some { e with object := .array ((historyValues written).foldl pushHistory values) } := by
  induction written generalizing od values with
  | nil => exact h
  | cons entry written ih => exact ih (get?_writeErrorToHistory h entry)

/-- The count at sub-index `0` stops at 254. -/
theorem read_count_of_array {od : ObjectDictionary σ} {e : ObjectEntry} {index : UInt16}
    {values : List ObjectValue} (h : od.entries.get? index = some { e with object := .array values }) :
    ∃ count : UInt8, od.read index 0 = some (.unsigned8 count) ∧
      count.toNat = min values.length 254 := by
  refine ⟨UInt8.ofNat (min values.length 254), ?_, ?_⟩
  · unfold ObjectDictionary.read
    rw [h]
    rfl
  · rw [UInt8.toNat_ofNat']
    omega

/-- The array of `0x1003` is a log of the newest entries.  The cap is 254 elements; an array that
started with more of them keeps its length. -/
theorem history_is_log {od : ObjectDictionary σ} {e : ObjectEntry} {values : List ObjectValue}
    (hentry : od.entries.get? 0x1003 = some e) (hobject : e.object = .array values)
    (written : List ErrorEntry) :
    ∃ (elements : List ObjectValue) (count : UInt8),
      (writeErrorsToHistory od written).entries.get? 0x1003 =
        some { e with object := .array elements } ∧
      elements = ((historyValues written).reverse ++ values).take (max 254 values.length) ∧
      (writeErrorsToHistory od written).read 0x1003 0 = some (.unsigned8 count) ∧
      count.toNat = min elements.length 254 ∧
      (values.length ≤ 254 →
        elements = ((historyValues written).reverse ++ values).take 254 ∧
        count.toNat = elements.length) ∧
      (∀ index, index ≠ 0x1003 →
        (writeErrorsToHistory od written).entries.get? index = od.entries.get? index) ∧
      (writeErrorsToHistory od written).storage = od.storage := by
  have hstart : od.entries.get? 0x1003 = some { e with object := .array values } := by
    rw [hentry, ← hobject]
  have hafter := get?_writeErrorsToHistory hstart written
  rw [foldl_pushHistory, maxHistoryEntries] at hafter
  obtain ⟨count, hread, hcount⟩ := read_count_of_array hafter
  refine ⟨_, count, hafter, rfl, hread, hcount, ?_,
    fun index hne => get?_writeErrorsToHistory_ne od written hne,
    storage_writeErrorsToHistory od written⟩
  intro hle
  rw [max_eq_left hle] at hcount ⊢
  refine ⟨rfl, ?_⟩
  rw [List.length_take] at hcount ⊢
  omega

/-- Two entries over an array of one element. -/
theorem history_is_log_two :
    let od : ObjectDictionary Empty := (ObjectDictionary.new none).insert 0x1003
      ⟨.array [.unsigned8 7], "NMT_ErrorHistory", none, none⟩
    let first : ErrorEntry := ⟨⟨false, false, .eventOccurred, 2⟩, 0x8245, ⟨0, 0⟩, 0⟩
    let second : ErrorEntry := ⟨⟨false, false, .errorActive, 2⟩, 0x8245, ⟨1, 0⟩, 0⟩
    (writeErrorsToHistory od [first, second]).readObject 0x1003 =
      some (.array [.domain second.serialize, .domain first.serialize, .unsigned8 7]) := by
  intro od first second
  have hentry : od.entries.get? 0x1003 =
      some ⟨.array [.unsigned8 7], "NMT_ErrorHistory", none, none⟩ := rfl
  obtain ⟨elements, _, hget, helements, -⟩ := history_is_log hentry rfl [first, second]
  unfold ObjectDictionary.readObject
  rw [hget, helements]
  rfl

end Powerlink
