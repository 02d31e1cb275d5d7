import Mathlib.Tactic

/-! # Regions of a buffer

`splice` writes a string over a part of a buffer, `region` reads a part of it back.  A region that
a splice covers is the string, and a region that it does not touch stays as it was.
`region_spliceAll` puts this together for any number of disjoint splices: each string can be read
back, whatever the order they were written in.  `InOrder` are splices that lie one behind the other;
they are disjoint (`InOrder.pairwise_apart`), and what they make of the buffer is the concatenation
of the strings and of what the buffer had between them (`region_spliceAll_eq_layout`). -/

namespace Regions

variable {α : Type}

/-- The buffer with `data` written over it from `offset` on. -/
def splice (buffer : List α) (offset : ℕ) (data : List α) : List α :=
  buffer.take offset ++ data ++ buffer.drop (offset + data.length)

/-- A part of the buffer. -/
def region (buffer : List α) (offset length : ℕ) : List α := (buffer.drop offset).take length

theorem length_splice {buffer data : List α} {offset : ℕ}
    (h : offset + data.length ≤ buffer.length) :
    (splice buffer offset data).length = buffer.length := by
  simp only [splice, List.length_append, List.length_take, List.length_drop]
  omega

theorem getElem?_region (buffer : List α) (offset length i : ℕ) :
    (region buffer offset length)[i]? = if i < length then buffer[offset + i]? else none := by
  unfold region
  rw [List.getElem?_take, List.getElem?_drop]

theorem getElem?_splice {buffer data : List α} {offset : ℕ}
    (h : offset + data.length ≤ buffer.length) (i : ℕ) :
    (splice buffer offset data)[i]? =
      if offset ≤ i ∧ i < offset + data.length then data[i - offset]? else buffer[i]? := by
  have htake : (buffer.take offset).length = offset := by
    rw [List.length_take]
    omega
  unfold splice
  rw [List.append_assoc, List.getElem?_append, htake, List.getElem?_append, List.getElem?_take,
    List.getElem?_drop]
  by_cases h₁ : i < offset
  · have h₂ : ¬(offset ≤ i ∧ i < offset + data.length) := by omega
    rw [if_pos h₁, if_pos h₁, if_neg h₂]
  · rw [if_neg h₁]
    by_cases h₂ : i - offset < data.length
    · have h₃ : offset ≤ i ∧ i < offset + data.length := by omega
      rw [if_pos h₂, if_pos h₃]
    · have h₃ : ¬(offset ≤ i ∧ i < offset + data.length) := by omega
      have h₄ : offset + data.length + (i - offset - data.length) = i := by omega
      rw [if_neg h₂, if_neg h₃, h₄]

/-- What was written is read back. -/
theorem region_splice_self {buffer data : List α} {offset : ℕ}
    (h : offset + data.length ≤ buffer.length) :
    region (splice buffer offset data) offset data.length = data := by
  apply List.ext_getElem?
  intro i
  rw [getElem?_region, getElem?_splice h]
  by_cases hi : i < data.length
  · have hin : offset ≤ offset + i ∧ offset + i < offset + data.length := by omega
    rw [if_pos hi, if_pos hin, Nat.add_sub_cancel_left]
  · rw [if_neg hi, List.getElem?_eq_none (by omega)]

/-- A region beside the written one stays as it was. -/
theorem region_splice_of_disjoint {buffer data : List α} {offset offset' length : ℕ}
    (h : offset + data.length ≤ buffer.length)
    (hd : offset' + length ≤ offset ∨ offset + data.length ≤ offset') :
    region (splice buffer offset data) offset' length = region buffer offset' length := by
  apply List.ext_getElem?
  intro i
  rw [getElem?_region, getElem?_region, getElem?_splice h]
  by_cases hi : i < length
  · have hout : ¬(offset ≤ offset' + i ∧ offset' + i < offset + data.length) := by omega
    rw [if_pos hi, if_pos hi, if_neg hout]
  · rw [if_neg hi, if_neg hi]

/-! ### Many splices -/

/-- A string and the position it is written to. -/
abbrev Piece (α : Type) := ℕ × List α

/-- The two strings do not overlap. -/
def Apart (a b : Piece α) : Prop := a.1 + a.2.length ≤ b.1 ∨ b.1 + b.2.length ≤ a.1

/-- The buffer with all pieces written over it. -/
def spliceAll (pieces : List (Piece α)) (buffer : List α) : List α :=
  pieces.foldl (fun b piece => splice b piece.1 piece.2) buffer

theorem spliceAll_append (pieces pieces' : List (Piece α)) (buffer : List α) :
    spliceAll (pieces ++ pieces') buffer = spliceAll pieces' (spliceAll pieces buffer) :=
  List.foldl_append

theorem length_spliceAll {pieces : List (Piece α)} {buffer : List α}
    (h : ∀ piece ∈ pieces, piece.1 + piece.2.length ≤ buffer.length) :
    (spliceAll pieces buffer).length = buffer.length := by
  induction pieces generalizing buffer with
  | nil => rfl
  | cons piece pieces ih =>
      have hlength := length_splice (h piece List.mem_cons_self)
      refine (ih ?_).trans hlength
      intro piece' hmem
      rw [hlength]
      exact h piece' (List.mem_cons_of_mem piece hmem)

/-- A region that no piece touches stays as it was. -/
theorem region_spliceAll_of_apart {pieces : List (Piece α)} {buffer : List α} {offset length : ℕ}
    (h : ∀ piece ∈ pieces, piece.1 + piece.2.length ≤ buffer.length)
    (hd : ∀ piece ∈ pieces, offset + length ≤ piece.1 ∨ piece.1 + piece.2.length ≤ offset) :
    region (spliceAll pieces buffer) offset length = region buffer offset length := by
  induction pieces generalizing buffer with
  | nil => rfl
  | cons piece pieces ih =>
      have hfits := h piece List.mem_cons_self
      refine (ih ?_ fun piece' hmem => hd piece' (List.mem_cons_of_mem piece hmem)).trans
        (region_splice_of_disjoint hfits (hd piece List.mem_cons_self))
      intro piece' hmem
      rw [length_splice hfits]
      exact h piece' (List.mem_cons_of_mem piece hmem)

/-- Each of many disjoint pieces is read back. -/
theorem region_spliceAll {pieces : List (Piece α)} {buffer : List α}
    (h : ∀ piece ∈ pieces, piece.1 + piece.2.length ≤ buffer.length)
    (hapart : pieces.Pairwise Apart) {piece : Piece α} (hmem : piece ∈ pieces) :
    region (spliceAll pieces buffer) piece.1 piece.2.length = piece.2 := by
  induction pieces generalizing buffer with
  | nil => exact absurd hmem List.not_mem_nil
  | cons first pieces ih =>
      have hfits := h first List.mem_cons_self
      have hrest : ∀ piece' ∈ pieces,
          piece'.1 + piece'.2.length ≤ (splice buffer first.1 first.2).length := by
        intro piece' hmem'
        rw [length_splice hfits]
        exact h piece' (List.mem_cons_of_mem first hmem')
      rcases List.mem_cons.mp hmem with rfl | hmem
      · -- the later pieces leave the first one alone
        refine (region_spliceAll_of_apart hrest ?_).trans (region_splice_self hfits)
        intro piece' hmem'
        exact List.rel_of_pairwise_cons hapart hmem'
      · exact ih hrest hapart.of_cons hmem

/-! ### Parts of regions -/

theorem region_zero (buffer : List α) (length : ℕ) : region buffer 0 length = buffer.take length :=
  rfl

theorem region_add (buffer : List α) (offset m n : ℕ) :
    region buffer offset (m + n) = region buffer offset m ++ region buffer (offset + m) n := by
  unfold region
  rw [List.take_add, List.drop_drop]

/-- A region of the front of a buffer. -/
theorem region_take {buffer : List α} {offset length n : ℕ} (h : offset + length ≤ n) :
    region (buffer.take n) offset length = region buffer offset length := by
  unfold region
  rw [List.drop_take, List.take_take]
  congr 1
  omega

theorem region_replicate {a : α} {offset length n : ℕ} (h : offset + length ≤ n) :
    region (List.replicate n a) offset length = List.replicate length a := by
  unfold region
  rw [List.drop_replicate, List.take_replicate]
  congr 1
  omega

/-- A region inside the written string. -/
theorem region_splice_inside {buffer data : List α} {offset i length : ℕ}
    (h : offset + data.length ≤ buffer.length) (hi : i + length ≤ data.length) :
    region (splice buffer offset data) (offset + i) length = region data i length := by
  apply List.ext_getElem?
  intro j
  rw [getElem?_region, getElem?_region, getElem?_splice h]
  by_cases hj : j < length
  · have hin : offset ≤ offset + i + j ∧ offset + i + j < offset + data.length := by omega
    have hsub : offset + i + j - offset = i + j := by omega
    rw [if_pos hj, if_pos hj, if_pos hin, hsub]
  · rw [if_neg hj, if_neg hj]

theorem getD_of_region {buffer : List α} {offset : ℕ} {a : α} (h : region buffer offset 1 = [a])
    (default : α) : buffer.getD offset default = a := by
  have hget := getElem?_region buffer offset 1 0
  rw [h, if_pos Nat.one_pos] at hget
  rw [List.getD_eq_getElem?_getD]
  exact congrArg (Option.getD · default) hget.symm

/-! ### Pieces in order -/

/-- Pieces that lie one behind the other between two positions. -/
def InOrder : ℕ → ℕ → List (Piece α) → Prop
  | start, stop, [] => start ≤ stop
  | start, stop, piece :: pieces =>
      start ≤ piece.1 ∧ InOrder (piece.1 + piece.2.length) stop pieces

theorem InOrder.le {pieces : List (Piece α)} : ∀ {start stop : ℕ}, InOrder start stop pieces →
    start ≤ stop := by
  induction pieces with
  | nil => exact fun h => h
  | cons piece pieces ih =>
      intro start stop h
      have hstart : start ≤ piece.1 := h.1
      have hstop := ih h.2
      omega

theorem InOrder.of_le {pieces : List (Piece α)} {start start' stop : ℕ} (hle : start ≤ start')
    (h : InOrder start' stop pieces) : InOrder start stop pieces := by
  cases pieces with
  | nil => exact hle.trans h
  | cons piece pieces => exact ⟨hle.trans h.1, h.2⟩

theorem InOrder.append {pieces pieces' : List (Piece α)} {stop stop' : ℕ} : ∀ {start : ℕ},
    InOrder start stop pieces → InOrder stop stop' pieces' →
      InOrder start stop' (pieces ++ pieces') := by
  induction pieces with
  | nil => exact fun h h' => h'.of_le h
  | cons piece pieces ih => exact fun h h' => ⟨h.1, ih h.2 h'⟩

theorem InOrder.bounds {pieces : List (Piece α)} : ∀ {start stop : ℕ}, InOrder start stop pieces →
    ∀ piece ∈ pieces, start ≤ piece.1 ∧ piece.1 + piece.2.length ≤ stop := by
  induction pieces with
  | nil => exact fun _ piece hmem => absurd hmem List.not_mem_nil
  | cons first pieces ih =>
      intro start stop h piece hmem
      have hstart : start ≤ first.1 := h.1
      rcases List.mem_cons.mp hmem with rfl | hmem
      · exact ⟨hstart, h.2.le⟩
      · obtain ⟨hlow, hhigh⟩ := ih h.2 piece hmem
        exact ⟨by omega, hhigh⟩

theorem InOrder.pairwise_apart {pieces : List (Piece α)} : ∀ {start stop : ℕ},
    InOrder start stop pieces → pieces.Pairwise Apart := by
  induction pieces with
  | nil => exact fun _ => List.Pairwise.nil
  | cons first pieces ih =>
      intro start stop h
      refine List.pairwise_cons.mpr ⟨?_, ih h.2⟩
      intro piece hmem
      exact .inl (h.2.bounds piece hmem).1

/-- The strings of the pieces, with what the buffer has before, between and behind them. -/
def layout (buffer : List α) : ℕ → ℕ → List (Piece α) → List α
  | start, stop, [] => region buffer start (stop - start)
  | start, stop, piece :: pieces =>
      region buffer start (piece.1 - start) ++ piece.2 ++
        layout buffer (piece.1 + piece.2.length) stop pieces

/-- The layout reads the buffer from its start on. -/
theorem layout_congr {buffer buffer' : List α} {pieces : List (Piece α)} : ∀ {start stop : ℕ},
    InOrder start stop pieces →
      (∀ offset length, start ≤ offset → region buffer offset length = region buffer' offset length) →
        layout buffer start stop pieces = layout buffer' start stop pieces := by
  induction pieces with
  | nil =>
      intro start stop _ h
      exact h start (stop - start) le_rfl
  | cons piece pieces ih =>
      intro start stop horder h
      have hstart : start ≤ piece.1 := horder.1
      have hrest := ih horder.2 fun offset length hle => h offset length (by omega)
      unfold layout
      rw [h start (piece.1 - start) le_rfl, hrest]

/-- Pieces in order make of the buffer their layout. -/
theorem region_spliceAll_eq_layout {pieces : List (Piece α)} : ∀ {buffer : List α} {start stop : ℕ},
    InOrder start stop pieces → stop ≤ buffer.length →
      region (spliceAll pieces buffer) start (stop - start) = layout buffer start stop pieces := by
  induction pieces with
  | nil => exact fun _ _ => rfl
  | cons piece pieces ih =>
      intro buffer start stop h hstop
      have hstart : start ≤ piece.1 := h.1
      have hend := h.2.le
      have hpiece : piece.1 + piece.2.length ≤ buffer.length := by omega
      have hfits : ∀ p ∈ piece :: pieces, p.1 + p.2.length ≤ buffer.length := by
        intro p hp
        exact (h.bounds p hp).2.trans hstop
      have hbefore : region (spliceAll (piece :: pieces) buffer) start (piece.1 - start) =
          region buffer start (piece.1 - start) := by
        apply region_spliceAll_of_apart hfits
        intro p hp
        left
        rcases List.mem_cons.mp hp with rfl | hp
        · omega
        · have := (h.2.bounds p hp).1
          omega
      have hself := region_spliceAll hfits h.pairwise_apart (List.mem_cons_self (a := piece))
      -- behind the first piece its splice changes nothing
      have hrest : region (spliceAll (piece :: pieces) buffer) (piece.1 + piece.2.length)
          (stop - (piece.1 + piece.2.length)) =
            layout buffer (piece.1 + piece.2.length) stop pieces := by
        have hfits' : stop ≤ (splice buffer piece.1 piece.2).length := by
          rw [length_splice hpiece]
          exact hstop
        have hspliced := ih h.2 hfits'
        refine hspliced.trans (layout_congr h.2 ?_)
        intro offset length hle
        exact region_splice_of_disjoint hpiece (.inr hle)
      have hlength : stop - start =
          (piece.1 - start) + (piece.2.length + (stop - (piece.1 + piece.2.length))) := by omega
      have hsub : start + (piece.1 - start) = piece.1 := by omega
      rw [hlength, region_add, region_add, hsub, hbefore, hself, hrest, ← List.append_assoc]
      rfl

end Regions
