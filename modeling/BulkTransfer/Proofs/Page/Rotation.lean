import BulkTransfer.Proofs.Page.RoundTrip
import Mathlib.Data.List.Chain
import Mathlib.Data.List.Induction
/-!
# The rotation of pages

Where a writer ends its pages. A group of items is packed until the next item would carry it past
the capacity; an item that is too large for any group has one to itself. This is the only greedy way
to cut items into groups, it depends on their sizes alone, and it is how a writer cuts its rows into
pages, from one flush to the next.
-/
namespace BulkTransfer

/-- Groups of items that are closed, and the one that is being filled. -/
structure Packing (α : Type) where
  closed : List (List α)
  current : List α

namespace Packing

variable {α β : Type}

def load (size : α → Nat) (group : List α) : Nat := (group.map size).sum

/-- The item goes into the group that is being filled, unless that has items but no room for it. -/
def put (size : α → Nat) (capacity : Nat) (p : Packing α) (item : α) : Packing α :=
  if p.current ≠ [] ∧ capacity < load size p.current + size item then
    ⟨p.closed ++ [p.current], [item]⟩
  else ⟨p.closed, p.current ++ [item]⟩

def pack (size : α → Nat) (capacity : Nat) (items : List α) : Packing α :=
  items.foldl (put size capacity) ⟨[], []⟩

/-- All groups, the one that is being filled as well if it has items. -/
def groups (p : Packing α) : List (List α) :=
  if p.current = [] then p.closed else p.closed ++ [p.current]

/-- The groups of some batches, each packed for itself, and the closed ones of the items behind
them. -/
def closedGroups (size : α → Nat) (capacity : Nat) (batches : List (List α)) (recent : List α) :
    List (List α) :=
  batches.flatMap (fun batch => (pack size capacity batch).groups) ++
    (pack size capacity recent).closed

/-- The groups are a greedy cut of the items: none of them is empty, each is within the capacity or
a single item, and the first item of each would not have fitted into the group before it. -/
structure IsGreedy (size : α → Nat) (capacity : Nat) (items : List α) (groups : List (List α)) :
    Prop where
  parts : groups.flatten = items
  filled : ∀ group ∈ groups, group ≠ []
  within : ∀ group ∈ groups, load size group ≤ capacity ∨ group.length = 1
  full : groups.IsChain fun group next =>
    ∀ item ∈ next.head?, capacity < load size group + size item

variable {size : α → Nat} {capacity : Nat} {items : List α} {p : Packing α}

@[simp]
theorem load_nil : load size [] = 0 := rfl

@[simp]
theorem load_append (first second : List α) :
    load size (first ++ second) = load size first + load size second := by
  simp [load]

@[simp]
theorem load_singleton (item : α) : load size [item] = size item := by simp [load]

theorem pack_concat (items : List α) (item : α) :
    pack size capacity (items ++ [item]) = put size capacity (pack size capacity items) item := by
  rw [pack, List.foldl_append]
  rfl

theorem put_full {item : α} (h : p.current ≠ [] ∧ capacity < load size p.current + size item) :
    put size capacity p item = ⟨p.closed ++ [p.current], [item]⟩ := if_pos h

theorem put_room {item : α} (h : ¬ (p.current ≠ [] ∧ capacity < load size p.current + size item)) :
    put size capacity p item = ⟨p.closed, p.current ++ [item]⟩ := if_neg h

theorem mem_groups_of_closed {group : List α} (h : group ∈ p.closed) : group ∈ p.groups := by
  rw [groups]
  split
  · exact h
  · exact List.mem_append_left _ h

section Greedy

/-- A further item keeps a greedy cut greedy. -/
theorem put_isGreedy (h : IsGreedy size capacity items p.groups)
    (started : p.current = [] → p.closed = []) (item : α) :
    IsGreedy size capacity (items ++ [item]) (put size capacity p item).groups := by
  obtain ⟨closed, current⟩ := p
  by_cases none : current = []
  · obtain rfl := none
    obtain rfl : closed = [] := started rfl
    obtain rfl : [] = items := h.parts
    exact ⟨rfl, by simp [put, groups], by simp [put, groups], .singleton _⟩
  · obtain ⟨parts, filled, within, full⟩ := h
    simp only [groups, if_neg none] at parts filled within full
    by_cases large : capacity < load size current + size item
    · have next : (put size capacity ⟨closed, current⟩ item).groups =
          closed ++ [current] ++ [[item]] := by
        simp [put, groups, none, large]
      rw [next]
      refine ⟨by simp [← parts], ?_, ?_, ?_⟩
      · rw [List.forall_mem_append]
        exact ⟨filled, by simp⟩
      · rw [List.forall_mem_append]
        exact ⟨within, by simp⟩
      · refine List.isChain_append.mpr ⟨full, .singleton _, ?_⟩
        simpa using large
    · have next : (put size capacity ⟨closed, current⟩ item).groups =
          closed ++ [current ++ [item]] := by
        simp [put, groups, large]
      rw [next]
      obtain ⟨filled, -⟩ := List.forall_mem_append.mp filled
      obtain ⟨within, -⟩ := List.forall_mem_append.mp within
      obtain ⟨chain, -, joint⟩ := List.isChain_append.mp full
      refine ⟨by simp [← parts], ?_, ?_, ?_⟩
      · rw [List.forall_mem_append]
        exact ⟨filled, by simp⟩
      · rw [List.forall_mem_append]
        exact ⟨within, by simpa using .inl (Nat.not_lt.mp large)⟩
      · refine List.isChain_append.mpr ⟨chain, .singleton _, ?_⟩
        -- the first item of the group that is being filled is still the same
        obtain ⟨first, rest, rfl⟩ := List.exists_cons_of_ne_nil none
        simpa using joint

theorem put_current (item : α) : (put size capacity p item).current ≠ [] := by
  rw [put]
  split <;> simp

theorem pack_started (items : List α) :
    (pack size capacity items).current = [] → (pack size capacity items).closed = [] := by
  cases items using List.reverseRecOn with
  | nil => exact fun _ => rfl
  | append_singleton items item =>
    rw [pack_concat]
    exact fun none => absurd none (put_current item)

theorem pack_isGreedy (size : α → Nat) (capacity : Nat) (items : List α) :
    IsGreedy size capacity items (pack size capacity items).groups := by
  induction items using List.reverseRecOn with
  | nil => exact ⟨rfl, by simp [pack, groups], by simp [pack, groups], .nil⟩
  | append_singleton items item ih =>
    rw [pack_concat]
    exact put_isGreedy ih (pack_started items) item

/-- Items that fit into the group that is being filled all go there. -/
theorem foldl_put_within {closed : List (List α)} {current group : List α}
    (h : load size (current ++ group) ≤ capacity) :
    group.foldl (put size capacity) ⟨closed, current⟩ = ⟨closed, current ++ group⟩ := by
  induction group generalizing current with
  | nil => simp
  | cons item group ih =>
    rw [List.append_cons] at h
    have room : ¬ capacity < load size current + size item := by
      rw [load_append, load_append, load_singleton] at h
      omega
    rw [List.foldl_cons, put_room fun full => room full.2, ih h, ← List.append_cons]

/-- A group of a greedy cut is packed as one. -/
theorem foldl_put_group {closed : List (List α)} {group : List α}
    (h : load size group ≤ capacity ∨ group.length = 1) :
    group.foldl (put size capacity) ⟨closed, []⟩ = ⟨closed, group⟩ := by
  rcases h with within | single
  · exact foldl_put_within within
  · obtain ⟨item, rfl⟩ := List.length_eq_one_iff.mp single
    simp [put]

/-- A greedy cut is packed group by group. -/
theorem IsGreedy.foldl_put {groups : List (List α)} (h : IsGreedy size capacity items groups)
    (closed : List (List α)) :
    (items.foldl (put size capacity) ⟨closed, []⟩).groups = closed ++ groups := by
  obtain ⟨rfl, filled, within, full⟩ := h
  induction groups generalizing closed with
  | nil => simp [Packing.groups]
  | cons group rest ih =>
    obtain ⟨some, filled⟩ := List.forall_mem_cons.mp filled
    obtain ⟨here, within⟩ := List.forall_mem_cons.mp within
    rw [List.flatten_cons, List.foldl_append, foldl_put_group here]
    cases rest with
    | nil => simp [Packing.groups, some]
    | cons next rest =>
      obtain ⟨first, others, rfl⟩ := List.exists_cons_of_ne_nil (filled next List.mem_cons_self)
      obtain ⟨large, full⟩ := List.isChain_cons_cons.mp full
      -- the first item of the next group closes this one
      have closes : put size capacity ⟨closed, group⟩ first =
          put size capacity ⟨closed ++ [group], []⟩ first := by
        simp [put, some, large first rfl]
      have later := ih (closed ++ [group]) filled within full
      rw [List.flatten_cons, List.cons_append, List.foldl_cons] at later ⊢
      rw [closes, later, List.append_assoc]
      rfl

/-- There is one greedy cut, and it is the one that is packed. -/
theorem isGreedy_iff {groups : List (List α)} :
    IsGreedy size capacity items groups ↔ groups = (pack size capacity items).groups := by
  constructor
  · intro h
    exact (h.foldl_put []).symm
  · rintro rfl
    exact pack_isGreedy size capacity items

end Greedy

section Sizes

/-- The groups with every item replaced. -/
def map (f : α → β) (p : Packing α) : Packing β := ⟨p.closed.map (·.map f), p.current.map f⟩

theorem put_map (size : β → Nat) (f : α → β) (item : α) :
    (put (fun a => size (f a)) capacity p item).map f =
      put size capacity (p.map f) (f item) := by
  have loads : load (fun a => size (f a)) p.current = load size (p.current.map f) := by
    rw [load, load, List.map_map]
    rfl
  simp only [put, map, loads, ne_eq, List.map_eq_nil_iff]
  split
  · simp
  · simp

/-- Only the sizes of the items decide where groups end. -/
theorem pack_map (size : β → Nat) (capacity : Nat) (f : α → β) (items : List α) :
    (pack (fun a => size (f a)) capacity items).map f = pack size capacity (items.map f) := by
  induction items using List.reverseRecOn with
  | nil => rfl
  | append_singleton items item ih =>
    rw [pack_concat, put_map, ih, List.map_append, List.map_singleton, pack_concat]

theorem groups_map (f : α → β) : (p.map f).groups = p.groups.map (·.map f) := by
  by_cases none : p.current = []
  · simp [groups, map, none]
  · simp [groups, map, none]

theorem closedGroups_map (size : β → Nat) (capacity : Nat) (f : α → β) (batches : List (List α))
    (recent : List α) :
    (closedGroups (fun a => size (f a)) capacity batches recent).map (·.map f) =
      closedGroups size capacity (batches.map (·.map f)) (recent.map f) := by
  have packed : ∀ batch : List α,
      (pack (fun a => size (f a)) capacity batch).groups.map (·.map f) =
        (pack size capacity (batch.map f)).groups := fun batch => by
    rw [← groups_map, pack_map]
  rw [closedGroups, closedGroups, List.map_append, List.map_flatMap, List.flatMap_map]
  simp only [packed]
  rw [← pack_map size capacity f recent]
  rfl

end Sizes

/-- Each group is one of a greedy cut. -/
theorem closedGroups_sound {batches : List (List α)} {recent group : List α}
    (h : group ∈ closedGroups size capacity batches recent) :
    group ≠ [] ∧ (load size group ≤ capacity ∨ group.length = 1) := by
  obtain ⟨items, hg⟩ : ∃ items, group ∈ (pack size capacity items).groups := by
    rcases List.mem_append.mp h with hg | hg
    · obtain ⟨batch, -, hg⟩ := List.mem_flatMap.mp hg
      exact ⟨batch, hg⟩
    · exact ⟨recent, mem_groups_of_closed hg⟩
  have greedy := pack_isGreedy size capacity items
  exact ⟨greedy.filled group hg, greedy.within group hg⟩

end Packing

/-- The rows that went into pages, cut at the flushes, and what was done since the last of them. -/
structure PageLog where
  flushed : List (List (List Cell))
  recent : List (List Cell)
  since : List PageOperation

namespace PageLog

/-- A row that no page can hold is refused and stays staged. -/
def note (s : Schema) (log : PageLog) : PageOperation → PageLog
  | .set column cell => { log with since := log.since ++ [.set column cell] }
  | .add =>
    if greatestOffset < s.rowSize (s.rowOf log.since) then log
    else ⟨log.flushed, log.recent ++ [s.rowOf log.since], []⟩
  | .flush => { log with flushed := log.flushed ++ [log.recent], recent := [] }

/-- The rows of the pages that are handed out. -/
def closed (s : Schema) (capacity : Nat) (log : PageLog) : List (List (List Cell)) :=
  Packing.closedGroups s.rowSize capacity log.flushed log.recent

/-- The rows of the page that is being filled. -/
def current (s : Schema) (capacity : Nat) (log : PageLog) : List (List Cell) :=
  (Packing.pack s.rowSize capacity log.recent).current

/-- The sizes of the rows, cut at the flushes. -/
def sizes (s : Schema) (log : PageLog) : List (List Nat) × List Nat :=
  (log.flushed.map (·.map s.rowSize), log.recent.map s.rowSize)

variable {s : Schema} {capacity : Nat} {log : PageLog} {row : List Cell}

theorem append_full (since : List PageOperation) (h : log.current s capacity ≠ [] ∧
      capacity < Packing.load s.rowSize (log.current s capacity) + s.rowSize row) :
    closed s capacity ⟨log.flushed, log.recent ++ [row], since⟩ =
        log.closed s capacity ++ [log.current s capacity] ∧
      current s capacity ⟨log.flushed, log.recent ++ [row], since⟩ = [row] := by
  have packed := (Packing.pack_concat log.recent row).trans (Packing.put_full h)
  simp only [closed, current, Packing.closedGroups, packed, List.append_assoc, and_self]

theorem append_room (since : List PageOperation) (h : ¬ (log.current s capacity ≠ [] ∧
      capacity < Packing.load s.rowSize (log.current s capacity) + s.rowSize row)) :
    closed s capacity ⟨log.flushed, log.recent ++ [row], since⟩ = log.closed s capacity ∧
      current s capacity ⟨log.flushed, log.recent ++ [row], since⟩ =
        log.current s capacity ++ [row] := by
  have packed := (Packing.pack_concat log.recent row).trans (Packing.put_room h)
  simp only [closed, current, Packing.closedGroups, packed, and_self]

/-- A flush closes the page that is being filled, if it has rows. -/
theorem closed_flush : (log.note s .flush).closed s capacity = log.closed s capacity ++
    if log.current s capacity = [] then [] else [log.current s capacity] := by
  rw [note, closed, closed, Packing.closedGroups, Packing.closedGroups, List.flatMap_append,
    List.flatMap_singleton, Packing.groups, current, List.append_assoc]
  split
  · simp [Packing.pack]
  · simp [Packing.pack]

end PageLog

def Schema.logOf (s : Schema) (ops : List PageOperation) : PageLog :=
  ops.foldl (PageLog.note s) ⟨[], [], []⟩

theorem Schema.rowSize_eq (s : Schema) (row : List Cell) :
    s.rowSize row = s.fixedSize + (row.map fun cell => cell.content.length).sum := by
  rw [rowSize, contentPlace_eq, List.length_flatMap]

/-- An add hands out the page exactly when it holds a record and the row would carry it past the page
size; a row that no page can hold changes nothing. -/
theorem PageWriter.Shows.add_emits {w : PageWriter} {s : Schema} {rows : List (List Cell)}
    {row : List Cell} {pool : Pool} (h : w.Shows s rows row)
    (hpool : pool.pageSize ≤ greatestOffset) :
    (greatestOffset < s.rowSize row →
      w.add pool = (.error (.recordTooLarge (s.rowSize row)), w, pool)) ∧
    (s.rowSize row ≤ greatestOffset → ∃ emitted w' pool',
      w.add pool = (.ok emitted, w', pool') ∧
      (emitted.isSome ↔
        w.recordCount ≠ 0 ∧ pool.pageSize < w.bytes.size + s.rowSize row)) := by
  refine ⟨h.add_refused pool, fun hrow => ?_⟩
  rw [h.count, h.size, ne_eq, List.length_eq_zero_iff]
  cases full : w.isFull pool (s.rowSize row) with
  | true =>
    obtain ⟨page, w', pool', added, -⟩ := h.add_full hrow full
    exact ⟨some page, w', pool', added, iff_of_true rfl ((h.isFull_iff _).mp full)⟩
  | false =>
    obtain ⟨w', pool', added, -⟩ := h.add_open hrow full (h.room hpool hrow full)
    refine ⟨none, w', pool', added, iff_of_false (by simp) fun large => ?_⟩
    exact Bool.eq_false_iff.mp full ((h.isFull_iff _).mpr large)

namespace PageSession

/-- The pages of the session are the closed groups of its rows, and its writer fills the last
group. -/
structure Rotates (x : PageSession) (s : Schema) (capacity : Nat) (log : PageLog) : Prop where
  pageSize : x.pool.pageSize = capacity
  pages : List.Forall₂ (fun page group => page.IsOf s group) x.pages (log.closed s capacity)
  writer : x.writer.Shows s (log.current s capacity) (s.rowOf log.since)

variable {x : PageSession} {s : Schema} {capacity : Nat} {log : PageLog}

theorem start_rotates (s : Schema) (pool : Pool) :
    (start s pool).Rotates s pool.pageSize ⟨[], [], []⟩ where
  pageSize := rfl
  pages := .nil
  writer := by
    rw [Schema.rowOf_nil]
    exact PageWriter.ofSchema_shows s

theorem set_rotates (h : x.Rotates s capacity log) (column : Nat) (cell : Cell) :
    (x.perform (.set column cell)).2.Rotates s capacity (log.note s (.set column cell)) := by
  obtain ⟨-, w, next, shows⟩ := set_shows h.writer column cell
  rw [next]
  exact ⟨h.pageSize, h.pages, shows⟩

theorem add_rotates (h : x.Rotates s capacity log) (hcapacity : capacity ≤ greatestOffset) :
    (x.perform .add).2.Rotates s capacity (log.note s .add) := by
  obtain rfl := h.pageSize
  by_cases large : greatestOffset < s.rowSize (s.rowOf log.since)
  · rw [PageLog.note, if_pos large, perform, h.writer.add_refused x.pool large]
    exact h
  · have hrow := Nat.not_lt.mp large
    rw [PageLog.note, if_neg large]
    cases full : x.writer.isFull x.pool (s.rowSize (s.rowOf log.since)) with
    | true =>
      obtain ⟨page, w, pool, added, size, isOf, next⟩ := h.writer.add_full hrow full
      obtain ⟨closed, current⟩ :=
        PageLog.append_full [] ((h.writer.isFull_iff _).mp full)
      rw [perform, added]
      refine ⟨size, ?_, ?_⟩
      · rw [closed]
        exact List.rel_append h.pages (.cons isOf .nil)
      · rw [current, Schema.rowOf_nil]
        exact next
    | false =>
      obtain ⟨w, pool, added, size, next⟩ := h.writer.add_open hrow full
        (h.writer.room hcapacity hrow full)
      obtain ⟨closed, current⟩ := PageLog.append_room [] fun large =>
        Bool.eq_false_iff.mp full ((h.writer.isFull_iff _).mpr large)
      rw [perform, added]
      refine ⟨size, ?_, ?_⟩
      · rw [closed]
        simpa using h.pages
      · rw [current, Schema.rowOf_nil]
        exact next

theorem flush_rotates (h : x.Rotates s capacity log) :
    (x.perform .flush).2.Rotates s capacity (log.note s .flush) := by
  obtain ⟨emitted, w, pool, flushed, size, next, done⟩ := h.writer.flush x.pool
  rw [perform, flushed]
  refine ⟨size.trans h.pageSize, ?_, next⟩
  rw [PageLog.closed_flush]
  rcases done with ⟨rfl, none⟩ | ⟨page, rfl, isOf⟩
  · rw [if_pos none]
    exact List.rel_append h.pages .nil
  · have some : log.current s capacity ≠ [] := fun none => by
      have nothing := (none ▸ h.writer).flush_nothing x.pool
      rw [flushed] at nothing
      cases nothing
    rw [if_neg some]
    exact List.rel_append h.pages (.cons isOf .nil)

theorem run_rotates (h : x.Rotates s capacity log) (hcapacity : capacity ≤ greatestOffset)
    (ops : List PageOperation) :
    (x.run ops).2.Rotates s capacity (ops.foldl (PageLog.note s) log) := by
  induction ops generalizing x log with
  | nil => exact h
  | cons op ops ih =>
    refine ih ?_
    cases op with
    | set column cell => exact set_rotates h column cell
    | add => exact add_rotates h hcapacity
    | flush => exact flush_rotates h

/-- Whatever is done, the pages are cut from the rows of the log. -/
theorem rotates (s : Schema) (pool : Pool) (ops : List PageOperation)
    (hpool : pool.pageSize ≤ greatestOffset) :
    ((start s pool).run ops).2.Rotates s pool.pageSize (s.logOf ops) :=
  run_rotates (start_rotates s pool) hpool ops

/-- How many records a page has, and how many bytes. -/
def extent (page : Page) : Nat × Nat := (page.recordCount, page.byteSize)

theorem extents_eq {pages : List Page} {groups : List (List (List Cell))}
    (h : List.Forall₂ (fun page group => page.IsOf s group) pages groups) :
    pages.map extent = groups.map fun group => (group.length, Packing.load s.rowSize group) := by
  rw [← List.forall₂_eq_eq_eq, List.forall₂_map_left_iff, List.forall₂_map_right_iff]
  exact h.imp fun page group isOf => Prod.ext isOf.count isOf.size

/-- A page holds a record, and is within the page size unless it holds no other one. -/
theorem Rotates.bounded (h : x.Rotates s capacity log) {page : Page} (hp : page ∈ x.pages) :
    page.recordCount ≠ 0 ∧ (page.byteSize ≤ capacity ∨ page.recordCount = 1) := by
  have among : extent page ∈ x.pages.map extent := List.mem_map_of_mem hp
  rw [extents_eq h.pages] at among
  obtain ⟨group, hg, same⟩ := List.mem_map.mp among
  obtain ⟨count, size⟩ := Prod.mk.inj same
  obtain ⟨some, within⟩ := Packing.closedGroups_sound hg
  rw [← List.length_pos_iff, Nat.pos_iff_ne_zero] at some
  rw [← count, ← size]
  exact ⟨some, within⟩

/-- The pages depend on nothing but the sizes of the rows and the flushes between them. -/
theorem Rotates.extents (h : x.Rotates s capacity log) :
    x.pages.map extent =
      (Packing.closedGroups id capacity (log.sizes s).1 (log.sizes s).2).map
        fun sizes => (sizes.length, sizes.sum) := by
  have sized := Packing.closedGroups_map id capacity s.rowSize log.flushed log.recent
  rw [extents_eq h.pages, PageLog.sizes, ← sized, List.map_map]
  refine List.map_congr_left fun group _ => ?_
  rw [Function.comp_apply, List.length_map, Packing.load]

end PageSession

/-- For every schema, every page size whose places can be stored, and whatever is done with a writer.
A page that is handed out holds a record, and is within the page size or holds one record that alone
is larger. It consists of its rows, and is as large as they are together: each has the fixed part
of the schema and its contents. An add hands out a page exactly when there is a record in it and the
new one would carry it past the page size, while a row that no page can hold is refused and changes
nothing. The rows are cut greedily from one flush to the next, there is no other greedy cut, and
rows of the same sizes are cut in the same way under any schema. -/
theorem pages_are_cut_greedily (s : Schema) (pool : Pool) (ops : List PageOperation)
    (hpool : pool.pageSize ≤ greatestOffset) :
    let x := ((PageSession.start s pool).run ops).2
    let log := s.logOf ops
    let row := s.rowOf log.since
    (∀ page ∈ x.pages, page.recordCount ≠ 0 ∧
      (page.byteSize ≤ pool.pageSize ∨
        page.recordCount = 1 ∧ pool.pageSize < page.byteSize)) ∧
    List.Forall₂ (fun page group => page.IsOf s group ∧
        page.byteSize = (group.map s.rowSize).sum) x.pages (log.closed s pool.pageSize) ∧
    (∀ row, s.Fits row → ∀ base,
      (s.rowBytes row base).length = s.rowSize row ∧
        s.rowSize row = s.fixedSize + (row.map fun cell => cell.content.length).sum) ∧
    x.writer.Shows s (log.current s pool.pageSize) row ∧
    (greatestOffset < s.rowSize row →
      x.writer.add x.pool = (.error (.recordTooLarge (s.rowSize row)), x.writer, x.pool)) ∧
    (s.rowSize row ≤ greatestOffset → ∃ emitted writer pool',
      x.writer.add x.pool = (.ok emitted, writer, pool') ∧
        (emitted.isSome ↔
          x.writer.recordCount ≠ 0 ∧ pool.pageSize < x.writer.bytes.size + s.rowSize row)) ∧
    (∀ batch groups, Packing.IsGreedy s.rowSize pool.pageSize batch groups ↔
      groups = (Packing.pack s.rowSize pool.pageSize batch).groups) ∧
    (∀ (s' : Schema) (pool' : Pool) (ops' : List PageOperation),
      pool'.pageSize = pool.pageSize → (s'.logOf ops').sizes s' = log.sizes s →
        ((PageSession.start s' pool').run ops').2.pages.map PageSession.extent =
          x.pages.map PageSession.extent) := by
  intro x log row
  have rotates := PageSession.rotates s pool ops hpool
  obtain ⟨refused, emits⟩ := rotates.writer.add_emits (rotates.pageSize ▸ hpool)
  refine ⟨?_, ?_, ?_, rotates.writer, refused, rotates.pageSize ▸ emits,
    fun batch groups => Packing.isGreedy_iff, ?_⟩
  · intro page hp
    obtain ⟨some, within⟩ := rotates.bounded hp
    refine ⟨some, (Nat.lt_or_ge pool.pageSize page.byteSize).symm.imp_right fun large => ?_⟩
    exact ⟨within.resolve_left (Nat.not_le.mpr large), large⟩
  · exact rotates.pages.imp fun page group isOf => ⟨isOf, isOf.size⟩
  · exact fun row fits base => ⟨Schema.rowBytes_length fits base, s.rowSize_eq row⟩
  · intro s' pool' ops' same sizes
    rw [(PageSession.rotates s' pool' ops' (same ▸ hpool)).extents, rotates.extents, same, sizes]

/-- Two rows that fill a page to the last byte, one alone, one beyond the page size, and a flush. -/
theorem rows_of_mixed_sizes_are_cut :
    let s : Schema := ⟨[⟨0, "text", .string⟩], rfl⟩
    let row (n : Nat) : List PageOperation := [.set 0 (.string (.ofList (.replicate n 'x'))), .add]
    let ops := row 19 ++ row 19 ++ row 12 ++ row 60 ++ row 1 ++ [.flush] ++ row 1
    (Pool.ofPageSize 64).pageSize ≤ greatestOffset ∧
      ((PageSession.start s (.ofPageSize 64)).run ops).2.pages.map PageSession.extent =
        [(2, 64), (1, 25), (1, 73), (1, 14)] := by
  intro s row ops
  obtain ⟨-, pages, -⟩ := pages_are_cut_greedily s (.ofPageSize 64) ops (by decide)
  refine ⟨by decide, ?_⟩
  rw [PageSession.extents_eq (pages.imp fun _ _ isOf => isOf.1)]
  decide +kernel

end BulkTransfer
