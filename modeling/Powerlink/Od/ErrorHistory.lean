import Powerlink.Od.Dictionary

/-! # The error history

The entries that a controlled node reports (`frame/error/status_response.rs`) and the object
`0x1003` that collects them, newest first (`od/error_history.rs`). -/

namespace Powerlink

open LittleEndian

/-- `ErrorEntryMode`. -/
inductive ErrorEntryMode where
  | terminator
  | errorActive
  | errorCleared
  | eventOccurred
deriving DecidableEq, Repr

/-- `ErrorEntryMode as u16`. -/
def ErrorEntryMode.toU16 : ErrorEntryMode → UInt16
  | terminator => 0
  | errorActive => 1
  | errorCleared => 2
  | eventOccurred => 3

/-- `EntryType`. -/
structure EntryType where
  isStatusEntry : Bool
  sendToQueue : Bool
  mode : ErrorEntryMode
  profile : UInt16
deriving DecidableEq, Repr

/-- The 16-bit word of an entry type. -/
def EntryType.toU16 (t : EntryType) : UInt16 :=
  let status : UInt16 := if t.isStatusEntry then 0x8000 else 0
  let queue : UInt16 := if t.sendToQueue then 0x4000 else 0
  (t.profile &&& (0x0FFF : UInt16)) ||| (t.mode.toU16 <<< (12 : UInt16)) ||| status ||| queue

/-- `ErrorEntry`. -/
structure ErrorEntry where
  entryType : EntryType
  errorCode : UInt16
  timestamp : NetTime
  additionalInformation : UInt64
deriving DecidableEq, Repr

/-- `ErrorEntry::serialize`. -/
def ErrorEntry.serialize (e : ErrorEntry) : List UInt8 :=
  u16Bytes e.entryType.toU16 ++ u16Bytes e.errorCode ++ u32Bytes e.timestamp.seconds ++
    u32Bytes e.timestamp.nanoseconds ++ u64Bytes e.additionalInformation

/-- `MAX_HISTORY_ENTRIES`. -/
def maxHistoryEntries : ℕ := 254

/-- The array of `0x1003` after an entry was written: `pop` removes the oldest one. -/
def pushHistory (values : List ObjectValue) (value : ObjectValue) : List ObjectValue :=
  if maxHistoryEntries < (value :: values).length then (value :: values).dropLast
  else value :: values

/-- `write_error_to_history`. -/
def writeErrorToHistory {σ : Type} (od : ObjectDictionary σ) (entry : ErrorEntry) :
    ObjectDictionary σ :=
  { od with
    entries := od.entries.modify 0x1003 (fun e =>
      match e.object with
      | .array values => { e with object := .array (pushHistory values (.domain entry.serialize)) }
      | _ => e) }

/-- The other objects keep their values. -/
theorem read_writeErrorToHistory {σ : Type} (od : ObjectDictionary σ) (entry : ErrorEntry)
    {index : UInt16} (h : index ≠ 0x1003) (subIndex : UInt8) :
    (writeErrorToHistory od entry).read index subIndex = od.read index subIndex := by
  unfold writeErrorToHistory ObjectDictionary.read
  dsimp only
  rw [SortedMap.get?_modify, if_neg h]

end Powerlink
