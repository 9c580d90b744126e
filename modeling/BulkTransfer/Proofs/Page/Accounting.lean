import BulkTransfer.Proofs.Page.RoundTrip
/-!
# Accounting for buffers

What a pool knows of the buffers that are out, and what a writer does with the buffer it asks for.
-/
namespace BulkTransfer

namespace Pool

/-- Exactly these buffers are out. -/
structure Accounts (p : Pool) (live : List Buffer) : Prop where
  counted : p.outstanding = live.length
  distinct : (live.map Buffer.number ++ p.free.map Buffer.number).Nodup
  numbered : ∀ n ∈ live.map Buffer.number ++ p.free.map Buffer.number, n < p.allocated
  room : p.pooled ≤ p.maxPooled
  sized : ∀ b ∈ p.free, p.pageSize ≤ b.capacity ∧ b.capacity ≤ 2 * p.pageSize

variable {p : Pool} {live live' : List Buffer} {b : Buffer} {wished : Nat}

theorem withMaxPooled_accounts (pageSize maxPooled : Nat) :
    (withMaxPooled pageSize maxPooled).Accounts [] where
  counted := rfl
  distinct := .nil
  numbered := by simp [withMaxPooled]
  room := Nat.zero_le _
  sized := by simp [withMaxPooled]

/-- The order of the buffers that are out does not matter, nor do their capacities. -/
theorem Accounts.perm (h : p.Accounts live)
    (same : (live.map Buffer.number).Perm (live'.map Buffer.number)) : p.Accounts live' where
  counted := by
    have length := same.length_eq
    rw [List.length_map, List.length_map] at length
    rw [h.counted, length]
  distinct := (same.append_right _).nodup_iff.mp h.distinct
  numbered := fun n hn => h.numbered n ((same.append_right _).mem_iff.mpr hn)
  room := h.room
  sized := h.sized

/-- What is acquired comes from the free buffers, or it has a new number. -/
theorem acquire_origin (p : Pool) (wished : Nat) :
    (∃ b rest, p.free = b :: rest ∧ wished ≤ p.pageSize ∧
      p.acquire wished = (b, { p with free := rest, outstanding := p.outstanding + 1 })) ∨
    ∃ capacity, wished ≤ capacity ∧ p.acquire wished = p.allocate capacity := by
  unfold acquire
  by_cases small : wished ≤ p.pageSize
  · rw [if_pos small]
    cases free : p.free with
    | nil => exact .inr ⟨_, small, rfl⟩
    | cons b rest => exact .inl ⟨b, rest, rfl, small, rfl⟩
  · rw [if_neg small]
    exact .inr ⟨wished, Nat.le_refl _, rfl⟩

theorem Accounts.acquire (h : p.Accounts live) (wished : Nat) :
    (p.acquire wished).2.Accounts ((p.acquire wished).1 :: live) := by
  rcases p.acquire_origin wished with ⟨b, rest, free, -, taken⟩ | ⟨capacity, -, taken⟩
  · have distinct := h.distinct
    have numbered := h.numbered
    have room := h.room
    have sized := h.sized
    rw [pooled, free, List.length_cons] at room
    rw [free] at distinct numbered sized
    have moved : (live.map Buffer.number ++ (b :: rest).map Buffer.number).Perm
        ((b :: live).map Buffer.number ++ rest.map Buffer.number) := List.perm_middle
    rw [taken]
    constructor
    · simp [h.counted]
    · exact moved.nodup_iff.mp distinct
    · intro n hn
      exact numbered n (moved.mem_iff.mpr hn)
    · exact Nat.le_of_succ_le room
    · intro c hc
      exact sized c (List.mem_cons_of_mem _ hc)
  · have fresh : p.allocated ∉ live.map Buffer.number ++ p.free.map Buffer.number :=
      fun known => Nat.lt_irrefl _ (h.numbered _ known)
    rw [taken, allocate]
    constructor
    · simp [h.counted]
    · exact List.nodup_cons.mpr ⟨fresh, h.distinct⟩
    · intro n hn
      rcases List.mem_cons.mp hn with rfl | hn
      · exact Nat.lt_succ_self _
      · exact Nat.lt_succ_of_lt (h.numbered n hn)
    · exact h.room
    · exact h.sized

theorem Accounts.acquire_capacity (h : p.Accounts live) (wished : Nat) :
    wished ≤ (p.acquire wished).1.capacity := by
  rcases p.acquire_origin wished with ⟨b, rest, free, small, taken⟩ | ⟨capacity, large, taken⟩
  · rw [taken]
    exact Nat.le_trans small (h.sized b (free ▸ List.mem_cons_self)).1
  · rw [taken]
    exact large

theorem release_free (p : Pool) (b : Buffer) : (p.release b).free =
    if p.keeps b then b :: p.free else p.free := rfl

theorem Accounts.release (h : p.Accounts (b :: live)) : (p.release b).Accounts live := by
  have moved : ((b :: live).map Buffer.number ++ p.free.map Buffer.number).Perm
      (live.map Buffer.number ++ (b :: p.free).map Buffer.number) := List.perm_middle.symm
  have counted : (p.release b).outstanding = live.length := by
    rw [Pool.release, h.counted, List.length_cons, Nat.add_sub_cancel]
  cases keeps : p.keeps b with
  | true =>
    have kept : (p.release b).free = b :: p.free := by rw [release_free, if_pos keeps]
    simp only [Pool.keeps, Bool.and_eq_true, decide_eq_true_eq] at keeps
    obtain ⟨⟨least, greatest⟩, room⟩ := keeps
    constructor
    · exact counted
    · rw [kept]
      exact moved.nodup_iff.mp h.distinct
    · intro n hn
      rw [kept] at hn
      exact h.numbered n (moved.mem_iff.mpr hn)
    · rw [pooled, kept]
      exact room
    · intro c hc
      rw [kept] at hc
      rcases List.mem_cons.mp hc with rfl | hc
      · exact ⟨least, greatest⟩
      · exact h.sized c hc
  | false =>
    have kept : (p.release b).free = p.free := by
      rw [release_free, keeps]
      rfl
    constructor
    · exact counted
    · rw [kept]
      exact (List.nodup_cons.mp h.distinct).2
    · intro n hn
      rw [kept] at hn
      exact h.numbered n (List.mem_cons_of_mem _ hn)
    · rw [pooled, kept]
      exact h.room
    · intro c hc
      rw [kept] at hc
      exact h.sized c hc

theorem acquire_maxPooled (p : Pool) (wished : Nat) : (p.acquire wished).2.maxPooled = p.maxPooled := by
  rcases p.acquire_origin wished with ⟨b, rest, -, -, taken⟩ | ⟨capacity, -, taken⟩
  · rw [taken]
  · rw [taken]
    rfl

end Pool

namespace PageWriter

variable {w : PageWriter} {s : Schema} {rows : List (List Cell)} {row : List Cell}

/-- The writer with its staged record behind the others, in this buffer. -/
def appended (w : PageWriter) (buffer : Buffer) : PageWriter :=
  { w with
    current := some buffer
    bytes := w.bytes ++ w.schema.encodeRecord w.staged w.scratch w.bytes.size
    recordCount := w.recordCount + 1
    staged := blank w.schema
    scratch := #[] }

/-- What a writer asks the pool for, to put a record of this size first in a page. -/
def wish (pool : Pool) (size : Nat) : Nat := if size > pool.pageSize then size else pool.pageSize

theorem le_wish (pool : Pool) (size : Nat) : size ≤ wish pool size ∧ pool.pageSize ≤ wish pool size := by
  unfold wish
  split <;> omega

/-- An add that is refused changes nothing. Otherwise the record goes behind others in the page, where
these leave room for it, or it goes first into a new buffer. -/
theorem Shows.add_cases (h : w.Shows s rows row) (pool : Pool) :
    w.add pool = (.error (.recordTooLarge (s.rowSize row)), w, pool) ∨
      (∃ b, w.current = some b ∧
        (w.recordCount = 0 ∨ w.bytes.size + s.rowSize row ≤ pool.pageSize) ∧
          w.add pool = (.ok none, w.appended b, pool)) ∨
        w.add pool = (.ok w.takePage.1, w.takePage.2.appended (pool.acquire (wish pool (s.rowSize row))).1,
          (pool.acquire (wish pool (s.rowSize row))).2) := by
  unfold PageWriter.add
  dsimp only
  rw [h.recordSize]
  by_cases large : s.rowSize row > greatestOffset
  · rw [if_pos large]
    exact .inl rfl
  rw [if_neg large]
  have fresh : ¬ (#[] : Array UInt8).size + s.rowSize row > greatestOffset := by simpa using large
  cases current : w.current with
  | none =>
    have empty : w.bytes = #[] := by
      have bytes := h.bytes
      rw [h.buffer current] at bytes
      exact Array.toList_eq_nil_iff.mp bytes
    simp only [current, Option.isSome_none, Bool.false_and, Bool.false_eq_true, if_false, empty,
      if_neg fresh]
    refine .inr (.inr ?_)
    rw [PageWriter.takePage, current]
    simp [appended, wish, empty]
  | some buffer =>
    cases full : w.isFull pool (s.rowSize row) with
    | true =>
      unfold isFull at full
      rw [current] at full
      simp only [full, if_true, PageWriter.takePage, current, if_neg fresh]
      exact .inr (.inr rfl)
    | false =>
      have room : w.recordCount = 0 ∨ w.bytes.size + s.rowSize row ≤ pool.pageSize := by
        simp only [isFull, current, Option.isSome_some, Bool.true_and, Bool.and_eq_false_iff,
          decide_eq_false_iff_not] at full
        omega
      unfold isFull at full
      rw [current] at full
      simp only [full, Bool.false_eq_true, if_false, current]
      split
      · rw [← current]
        exact .inl rfl
      · exact .inr (.inl ⟨buffer, rfl, room, rfl⟩)

end PageWriter

end BulkTransfer
