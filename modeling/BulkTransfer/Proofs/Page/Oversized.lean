import BulkTransfer.Proofs.Page.Sharing
/-!
# Buffers of more than a page

A buffer keeps its number wherever it goes, and never shrinks. One that was made for a wish beyond the page
size is therefore kept when it is released if it has at most two pages and the pool has room, and is then
the next one to be handed out; of a wish beyond two pages nothing is ever kept.
-/
namespace BulkTransfer

namespace SharedPool

/-- A buffer that is out or free. -/
def Has (x : SharedPool) (b : Buffer) : Prop :=
  (∃ sharer ∈ x.sharers, sharer.buffer? = some b) ∨ b ∈ x.pool.free

/-- The buffer was there, if it is not new, with no more capacity. -/
def Knew (x : SharedPool) (c : Buffer) : Prop :=
  x.pool.allocated ≤ c.number ∨ ∃ b, x.Has b ∧ b.number = c.number ∧ b.capacity ≤ c.capacity

/-- No buffer of `y` has shrunk since `x`. -/
structure Descends (x y : SharedPool) : Prop where
  allocated : x.pool.allocated ≤ y.pool.allocated
  out : ∀ sharer ∈ y.sharers, ∀ c, sharer.buffer? = some c → x.Knew c
  free : ∀ c ∈ y.pool.free, x.Knew c

variable {x y z : SharedPool} {pageSize maxPooled place : Nat} {w : PageWriter} {b c : Buffer}
  {sharer : Sharer}

theorem Has.knew (h : x.Has b) : x.Knew b := .inr ⟨b, h, rfl, Nat.le_refl _⟩

theorem knew_out (member : sharer ∈ x.sharers) (has : sharer.buffer? = some b) : x.Knew b :=
  Has.knew (.inl ⟨sharer, member, has⟩)

theorem knew_free (free : b ∈ x.pool.free) : x.Knew b := Has.knew (.inr free)

namespace Descends

theorem has (h : Descends x y) (hc : y.Has c) : x.Knew c := by
  rcases hc with ⟨sharer, member, has⟩ | free
  · exact h.out sharer member c has
  · exact h.free c free

theorem knew (h : Descends x y) (hc : y.Knew c) : x.Knew c := by
  rcases hc with new | ⟨b, hb, same, grown⟩
  · exact .inl (Nat.le_trans h.allocated new)
  rcases h.has hb with new | ⟨a, ha, same', grown'⟩
  · exact .inl (same ▸ new)
  · exact .inr ⟨a, ha, same'.trans same, Nat.le_trans grown' grown⟩

theorem refl (x : SharedPool) : Descends x x where
  allocated := Nat.le_refl _
  out := fun _ member _ has => knew_out member has
  free := fun _ free => knew_free free

theorem trans (h : Descends x y) (h' : Descends y z) : Descends x z where
  allocated := Nat.le_trans h.allocated h'.allocated
  out := fun sharer member c has => h.knew (h'.out sharer member c has)
  free := fun c free => h.knew (h'.free c free)

/-- One sharer becomes another one, while the pool and the others stay. -/
theorem replaced (memory : Nat → Array UInt8) {new : Sharer} (knows : ∀ c, new.buffer? = some c → x.Knew c) :
    Descends x { x with sharers := x.sharers.set place new, memory } where
  allocated := Nat.le_refl _
  out := by
    intro sharer member c has
    rcases List.mem_or_eq_of_mem_set member with old | rfl
    · exact knew_out old has
    · exact knows c has
  free := fun _ free => knew_free free

/-- A sharer comes along. -/
theorem joined {new : Sharer} (knows : ∀ c, new.buffer? = some c → x.Knew c) :
    Descends x { x with sharers := new :: x.sharers } where
  allocated := Nat.le_refl _
  out := by
    intro sharer member c has
    rcases List.mem_cons.mp member with rfl | old
    · exact knows c has
    · exact knew_out old has
  free := fun _ free => knew_free free

end Descends

/-- What is acquired was free or is new, and nothing else changes hands. -/
theorem acquired_known (x : SharedPool) (wished : Nat) :
    x.pool.allocated ≤ (x.pool.acquire wished).2.allocated ∧ x.Knew (x.pool.acquire wished).1 ∧
      ∀ c ∈ (x.pool.acquire wished).2.free, x.Knew c := by
  rcases x.pool.acquire_origin wished with ⟨b, rest, free, -, taken⟩ | ⟨capacity, -, taken⟩
  · rw [taken]
    refine ⟨Nat.le_refl _, knew_free (free ▸ List.mem_cons_self), fun c hc => knew_free ?_⟩
    rw [free]
    exact List.mem_cons_of_mem _ hc
  · rw [taken]
    exact ⟨Nat.le_succ _, .inl (Nat.le_refl _), fun c hc => knew_free hc⟩

theorem acquire_descends (x : SharedPool) (wished : Nat) : Descends x (x.acquire wished) := by
  obtain ⟨allocated, known, free⟩ := x.acquired_known wished
  refine ⟨allocated, fun sharer member c has => ?_, free⟩
  rcases List.mem_cons.mp member with rfl | old
  · obtain rfl := Option.some.inj has
    exact known
  · exact knew_out old has

theorem drop_descends (x : SharedPool) (place : Nat) : Descends x (x.perform (.drop place)) := by
  have left : ∀ sharer ∈ x.sharers.eraseIdx place, ∀ c, sharer.buffer? = some c → x.Knew c :=
    fun sharer member c has => knew_out (List.mem_of_mem_eraseIdx member) has
  rw [perform]
  split
  case h_1 => exact .refl x
  case h_2 sharer at_place =>
    split
    case h_1 => exact ⟨Nat.le_refl _, left, fun _ free => knew_free free⟩
    case h_2 buffer has =>
      refine ⟨Nat.le_refl _, left, fun c free => ?_⟩
      rw [released, Pool.release_free] at free
      split at free
      · rcases List.mem_cons.mp free with rfl | free
        · exact knew_out (List.mem_of_getElem? at_place) has
        · exact knew_free free
      · exact knew_free free

theorem Sound.add_descends (h : x.Sound pageSize maxPooled) (at_place : x.sharers[place]? = some (.writer w)) :
    Descends x (x.write place w .add) := by
  have mine := List.mem_of_getElem? at_place
  have fills : w.Fills x.memory pageSize := h.sharers _ mine
  obtain ⟨rows, row, shows⟩ := fills.shows
  rw [SharedPool.write]
  rcases shows.add_cases x.pool with refused | ⟨b, current, -, added⟩ | added
  · rw [refused]
    exact .replaced x.memory fun c has => knew_out mine has
  · rw [added]
    refine .replaced _ fun c has => ?_
    obtain rfl := Option.some.inj has
    exact knew_out mine current
  · obtain ⟨-, -, handed⟩ := shows.taken
    obtain ⟨allocated, known, free⟩ := x.acquired_known (PageWriter.wish x.pool (w.schema.rowSize row))
    rw [added]
    refine ⟨allocated, fun sharer member c has => ?_, free⟩
    rcases List.mem_append.mp member with member | member
    · -- the page that is handed out has the buffer that the writer had
      obtain ⟨page, taken, rfl⟩ := Option.map_eq_some_iff.mp (Option.mem_toList.mp member)
      rw [taken] at handed
      exact knew_out mine (handed.symm.trans has)
    · rcases List.mem_or_eq_of_mem_set member with old | rfl
      · exact knew_out old has
      · obtain rfl := Option.some.inj has
        exact known

theorem Sound.flush_descends (h : x.Sound pageSize maxPooled)
    (at_place : x.sharers[place]? = some (.writer w)) : Descends x (x.write place w .flush) := by
  have mine := List.mem_of_getElem? at_place
  have fills : w.Fills x.memory pageSize := h.sharers _ mine
  obtain ⟨rows, row, shows⟩ := fills.shows
  rw [SharedPool.write, PageWriter.flush]
  by_cases zero : w.recordCount = 0
  · have noBuffer : w.current = none := by
      by_contra given
      exact fills.begun given zero
    rw [if_pos zero, noBuffer]
    refine .replaced x.memory fun c has => ?_
    cases has
  · obtain ⟨page, handed, -⟩ := shows.takePage fun none => zero (by rw [shows.count, none]; rfl)
    obtain ⟨-, noBuffer, same⟩ := shows.taken
    rw [handed] at noBuffer same
    rw [if_neg zero, handed]
    refine ⟨Nat.le_refl _, fun sharer member c has => ?_, fun _ free => knew_free free⟩
    rcases List.mem_cons.mp member with rfl | member
    · exact knew_out mine (same.symm.trans has)
    · rcases List.mem_or_eq_of_mem_set member with old | rfl
      · exact knew_out old has
      · cases noBuffer.symm.trans has

theorem Sound.set_descends (h : x.Sound pageSize maxPooled) (at_place : x.sharers[place]? = some (.writer w))
    (column : Nat) (cell : Cell) : Descends x (x.write place w (.set column cell)) := by
  have mine := List.mem_of_getElem? at_place
  have fills : w.Fills x.memory pageSize := h.sharers _ mine
  rw [SharedPool.write]
  cases done : w.set column cell with
  | error e => exact .refl x
  | ok w' =>
    obtain ⟨-, current⟩ := fills.set done
    exact .replaced x.memory fun c has => knew_out mine (current.symm.trans has)

theorem fill_descends (x : SharedPool) (place : Nat) (content : Array UInt8) (spare : Nat) :
    Descends x (x.perform (.fill place content spare)) := by
  rw [perform]
  split
  case h_1 buffer at_place =>
    refine .replaced _ fun c has => ?_
    obtain rfl := Option.some.inj has
    exact .inr ⟨buffer, .inl ⟨_, List.mem_of_getElem? at_place, rfl⟩, rfl, Nat.le_max_left _ _⟩
  case h_2 => exact .refl x

theorem Sound.perform_descends (h : x.Sound pageSize maxPooled) (op : PoolOperation) :
    Descends x (x.perform op) := by
  cases op with
  | acquire wished => exact acquire_descends x wished
  | fill place content spare => exact fill_descends x place content spare
  | openWriter schema => exact .joined fun c has => nomatch has
  | write place op =>
    rw [SharedPool.perform]
    split
    case h_1 w at_place =>
      cases op with
      | set column cell => exact h.set_descends at_place column cell
      | add => exact h.add_descends at_place
      | flush => exact h.flush_descends at_place
    case h_2 => exact .refl x
  | drop place => exact drop_descends x place

theorem Sound.run_descends (h : x.Sound pageSize maxPooled) (ops : List PoolOperation) :
    Descends x (x.run ops) := by
  induction ops generalizing x with
  | nil => exact .refl x
  | cons op ops ih => exact (h.perform_descends op).trans (ih (h.perform op))

theorem Sound.numbered (h : x.Sound pageSize maxPooled) (hb : x.Has b) : b.number < x.pool.allocated := by
  refine h.accounts.numbered b.number (List.mem_append.mpr ?_)
  rcases hb with ⟨sharer, member, has⟩ | free
  · exact .inl (List.mem_map_of_mem (List.mem_filterMap.mpr ⟨sharer, member, has⟩))
  · exact .inr (List.mem_map_of_mem free)

/-- A wish beyond the page size is met by a new buffer. It has its number for good, and has not shrunk when
it is met again. -/
theorem Sound.oversized (h : x.Sound pageSize maxPooled) {wished : Nat} (large : pageSize < wished)
    (later : Descends (x.acquire wished) y) (hc : y.Has c) (same : c.number = x.pool.allocated) :
    wished ≤ c.capacity := by
  have made : x.acquire wished =
      ⟨(x.pool.allocate wished).2, .holder ⟨x.pool.allocated, wished⟩ :: x.sharers, x.memory⟩ := by
    rw [SharedPool.acquire, Pool.acquire, if_neg (by rw [h.paged]; omega)]
    rfl
  rw [made] at later
  rcases later.has hc with new | ⟨b, hb, number, grown⟩
  · exact absurd new (by rw [same]; exact Nat.not_succ_le_self _)
  have old : ¬ x.Has b := fun hb => Nat.lt_irrefl _ (number.trans same ▸ h.numbered hb)
  rcases hb with ⟨sharer, member, has⟩ | free
  · rcases List.mem_cons.mp member with rfl | member
    · obtain rfl := Option.some.inj has
      exact grown
    · exact absurd (.inl ⟨sharer, member, has⟩) old
  · exact absurd (.inr free) old

/-- What is released is at no other place. -/
theorem Sound.apart (h : y.Sound pageSize maxPooled) (at_place : y.sharers[place]? = some sharer)
    (has : sharer.buffer? = some c) :
    (∀ other ∈ y.sharers.eraseIdx place, ∀ d, other.buffer? = some d → d.number ≠ c.number) ∧
      ∀ d ∈ y.pool.free, d.number ≠ c.number := by
  have known : y.live.Perm (c :: (y.sharers.eraseIdx place).filterMap Sharer.buffer?) := by
    have live := (chosen at_place).1.filterMap Sharer.buffer?
    rwa [List.filterMap_cons_some has] at live
  have distinct := (h.accounts.perm (known.map Buffer.number)).distinct
  rw [List.map_cons, List.cons_append, List.nodup_cons, List.mem_append, not_or] at distinct
  constructor
  · intro other member d hd same
    exact distinct.1.1 (same ▸ List.mem_map_of_mem (List.mem_filterMap.mpr ⟨other, member, hd⟩))
  · intro d hd same
    exact distinct.1.2 (same ▸ List.mem_map_of_mem hd)

theorem perform_drop (at_place : y.sharers[place]? = some sharer) (has : sharer.buffer? = some c) :
    y.perform (.drop place) = y.released c (y.sharers.eraseIdx place) := by
  rw [perform]
  simp only [at_place, has]

/-- A buffer of a page at least is kept when it is released if it has two pages at most and there is room.
It is then the next one to be handed out, and otherwise it is gone for good. -/
theorem Sound.dropped (h : y.Sound pageSize maxPooled) (at_place : y.sharers[place]? = some sharer)
    (has : sharer.buffer? = some c) (large : pageSize ≤ c.capacity) :
    let z := y.perform (.drop place)
    (c ∈ z.pool.free ↔ c.capacity ≤ 2 * pageSize ∧ y.pool.pooled < maxPooled) ∧
      (c ∈ z.pool.free → ∀ again ≤ pageSize, (z.pool.acquire again).1 = c) ∧
        (c ∉ z.pool.free → ∀ later d, (z.run later).Has d → d.number ≠ c.number) := by
  intro z
  obtain ⟨others, free⟩ := h.apart at_place has
  have after : z = y.released c (y.sharers.eraseIdx place) := perform_drop at_place has
  have keeps : y.pool.keeps c = true ↔ c.capacity ≤ 2 * pageSize ∧ y.pool.pooled < maxPooled := by
    simp only [Pool.keeps, Bool.and_eq_true, decide_eq_true_eq, h.paged, h.limited]
    tauto
  have left : z.pool.free = if y.pool.keeps c then c :: y.pool.free else y.pool.free := by
    rw [after, released, Pool.release_free]
  have only : c ∈ z.pool.free ↔ y.pool.keeps c = true := by
    rw [left]
    split
    case isTrue kept => exact iff_of_true List.mem_cons_self kept
    case isFalse gone => exact iff_of_false (fun mem => free c mem rfl) gone
  have sound : z.Sound pageSize maxPooled := h.perform (.drop place)
  refine ⟨only.trans keeps, fun kept again small => ?_, fun gone later d hd same => ?_⟩
  · rw [Pool.acquire, if_pos (small.trans_eq sound.paged.symm), left, if_pos (only.mp kept)]
  · rw [if_neg fun kept => gone (only.mpr kept)] at left
    have old : c.number < z.pool.allocated := by
      rw [after]
      exact h.numbered (.inl ⟨sharer, List.mem_of_getElem? at_place, has⟩)
    rcases (sound.run_descends later).has hd with new | ⟨b, hb, number, -⟩
    · omega
    rcases hb with ⟨other, member, hb⟩ | hb
    · rw [after] at member
      exact others other member b hb (number.trans same)
    · rw [left] at hb
      exact free b hb (number.trans same)

end SharedPool

open SharedPool

/-- After any operations on a pool, a wish beyond the page size is met by a new buffer of that size. Whatever
happens then, the buffer is never free if it has more than two pages. Whoever has it when it is released has
it with no less capacity than was wished for; it is kept exactly if it has two pages at most and the pool has
room, and is then the next one to be handed out. If it is not kept it is never seen again. -/
theorem oversized_buffers_are_kept_up_to_two_pages (pageSize maxPooled wished : Nat)
    (before after : List PoolOperation) :
    let x := (start pageSize maxPooled).run before
    let y := (x.acquire wished).run after
    let page := max pageSize leastPageSize
    page < wished →
      (x.pool.acquire wished).1 = ⟨x.pool.allocated, wished⟩ ∧
      (∀ c ∈ y.pool.free, c.number = x.pool.allocated → wished ≤ 2 * page) ∧
      ∀ place sharer c, y.sharers[place]? = some sharer → sharer.buffer? = some c →
        c.number = x.pool.allocated →
          wished ≤ c.capacity ∧
            let z := y.perform (.drop place)
            (c ∈ z.pool.free ↔ c.capacity ≤ 2 * page ∧ y.pool.pooled < maxPooled) ∧
              (c ∈ z.pool.free → ∀ again ≤ page, (z.pool.acquire again).1 = c) ∧
                (c ∉ z.pool.free → ∀ later d, (z.run later).Has d → d.number ≠ x.pool.allocated) := by
  intro x y page large
  have sound : x.Sound page maxPooled := (start_sound pageSize maxPooled).run before
  have later : y.Sound page maxPooled := (sound.acquire wished).run after
  have descends : Descends (x.acquire wished) y := (sound.acquire wished).run_descends after
  refine ⟨?_, fun c free same => ?_, fun place sharer c at_place has same => ?_⟩
  · rw [Pool.acquire, if_neg (by rw [sound.paged]; omega)]
    rfl
  · have capacity := sound.oversized large descends (.inr free) same
    have sized := (later.accounts.sized c free).2
    rw [later.paged] at sized
    exact capacity.trans sized
  · have mine : y.Has c := .inl ⟨sharer, List.mem_of_getElem? at_place, has⟩
    have capacity := sound.oversized large descends mine same
    rw [← same]
    exact ⟨capacity, later.dropped at_place has (large.le.trans capacity)⟩

/-- A buffer of one and a half pages is kept, and handed out for the next wish of a page. -/
theorem dedicated_buffer_is_handed_out_again :
    let x := (start 64 64).run []
    let y := (x.acquire 96).run []
    let z := y.perform (.drop 0)
    max 64 leastPageSize < 96 ∧ y.sharers[0]? = some (.holder ⟨0, 96⟩) ∧ ⟨0, 96⟩ ∈ z.pool.free ∧
      (z.pool.acquire 64).1 = ⟨0, 96⟩ := by
  intro x y z
  obtain ⟨-, -, released⟩ := oversized_buffers_are_kept_up_to_two_pages 64 64 96 [] [] (by decide)
  obtain ⟨-, kept, again, -⟩ := released 0 (.holder ⟨0, 96⟩) ⟨0, 96⟩ rfl rfl rfl
  have free : ⟨0, 96⟩ ∈ z.pool.free := kept.mpr (by decide)
  exact ⟨by decide, rfl, free, again free 64 (by decide)⟩

/-- So it is not true that what was acquired beyond the page size is never kept. -/
theorem dedicated_buffer_is_kept :
    ¬ ∀ (pageSize maxPooled wished : Nat) (before after : List PoolOperation),
      let x := (start pageSize maxPooled).run before
      let y := (x.acquire wished).run after
      x.pool.pageSize < wished → ∀ c ∈ y.pool.free, c.number ≠ (x.pool.acquire wished).1.number := by
  intro never
  exact never 64 64 65 [] [.drop 0] (by decide) ⟨0, 65⟩ (by decide) (by decide)

end BulkTransfer
