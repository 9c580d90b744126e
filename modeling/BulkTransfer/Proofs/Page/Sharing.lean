import BulkTransfer.Proofs.Page.Accounting
import Mathlib.Data.List.Perm.Basic
import Mathlib.Logic.Function.Basic
/-!
# A shared pool

A pool is shared by holders of plain buffers, by writers and by the pages that these hand out. Whatever
they do, and in whatever order they let go of what they have, the pool knows how many buffers are out,
and no buffer is at two places. What is in the buffers is kept beside the pool here, by their numbers: a
writer appends to what it finds in its buffer, and only a release empties one. So that writers and pages
have the bytes they say rests on buffers being empty when they are taken.
-/
namespace BulkTransfer

/-- Who can have a buffer of the pool. -/
inductive Sharer where
  | holder (buffer : Buffer)
  | writer (w : PageWriter)
  | page (p : Page)

def Sharer.buffer? : Sharer → Option Buffer
  | holder buffer => some buffer
  | writer w => w.current
  | page p => some p.buffer

/-- A holder may put any content in its buffer, which grows where it has to and perhaps more. -/
inductive PoolOperation where
  | acquire (wished : Nat)
  | fill (place : Nat) (content : Array UInt8) (spare : Nat)
  | openWriter (schema : Schema)
  | write (place : Nat) (op : PageOperation)
  | drop (place : Nat)

structure SharedPool where
  pool : Pool
  sharers : List Sharer
  memory : Nat → Array UInt8

namespace SharedPool

def start (pageSize maxPooled : Nat) : SharedPool :=
  ⟨.withMaxPooled pageSize maxPooled, [], fun _ => #[]⟩

/-- The buffers that are out. -/
def live (x : SharedPool) : List Buffer := x.sharers.filterMap Sharer.buffer?

def acquire (x : SharedPool) (wished : Nat) : SharedPool :=
  ⟨(x.pool.acquire wished).2, .holder (x.pool.acquire wished).1 :: x.sharers, x.memory⟩

/-- The pool when a buffer has gone back to it, emptied, and these sharers are left. -/
def released (x : SharedPool) (buffer : Buffer) (left : List Sharer) : SharedPool :=
  ⟨x.pool.release buffer, left, Function.update x.memory buffer.number #[]⟩

def write (x : SharedPool) (place : Nat) (w : PageWriter) : PageOperation → SharedPool
  | .set column cell =>
    match w.set column cell with
    | .ok w => { x with sharers := x.sharers.set place (.writer w) }
    | .error _ => x
  | .add =>
    match w.add x.pool with
    | (.error _, w, pool) => { x with pool, sharers := x.sharers.set place (.writer w) }
    | (.ok page, w', pool) =>
      { pool
        sharers := (page.map Sharer.page).toList ++ x.sharers.set place (.writer w')
        memory := w'.current.elim x.memory fun buffer =>
          Function.update x.memory buffer.number (x.memory buffer.number ++
            w.schema.encodeRecord w.staged w.scratch (x.memory buffer.number).size) }
  | .flush =>
    match w.flush x.pool with
    | (some page, w, pool) =>
      { x with pool, sharers := .page page :: x.sharers.set place (.writer w) }
    | (none, w', pool) =>
      { pool
        sharers := x.sharers.set place (.writer w')
        memory := w.current.elim x.memory fun buffer =>
          Function.update x.memory buffer.number #[] }

/-- An operation on a place where there is nobody to perform it changes nothing. -/
def perform (x : SharedPool) : PoolOperation → SharedPool
  | .acquire wished => x.acquire wished
  | .fill place content spare =>
    match x.sharers[place]? with
    | some (.holder buffer) =>
      { x with
        sharers := x.sharers.set place
          (.holder { buffer with capacity := max buffer.capacity (content.size + spare) })
        memory := Function.update x.memory buffer.number content }
    | _ => x
  | .openWriter schema => { x with sharers := .writer (.ofSchema schema) :: x.sharers }
  | .write place op =>
    match x.sharers[place]? with
    | some (.writer w) => x.write place w op
    | _ => x
  | .drop place =>
    match x.sharers[place]? with
    | none => x
    | some sharer =>
      match sharer.buffer? with
      | none => { x with sharers := x.sharers.eraseIdx place }
      | some buffer => x.released buffer (x.sharers.eraseIdx place)

def run (x : SharedPool) (ops : List PoolOperation) : SharedPool := ops.foldl perform x

end SharedPool

/-- The buffer holds these bytes, and has not grown for them. -/
def Buffer.Holds (b : Buffer) (memory : Nat → Array UInt8) (bytes : Array UInt8) : Prop :=
  memory b.number = bytes ∧ bytes.size ≤ b.capacity

/-- A writer has a buffer exactly when it has records, and the buffer holds them. -/
structure PageWriter.Fills (w : PageWriter) (memory : Nat → Array UInt8) (pageSize : Nat) : Prop where
  shows : ∃ rows row, w.Shows w.schema rows row
  begun : w.current ≠ none → w.recordCount ≠ 0
  holds : ∀ b, w.current = some b → b.Holds memory w.bytes
  paged : ∀ b, w.current = some b → pageSize ≤ b.capacity

def Sharer.IsSound (memory : Nat → Array UInt8) (pageSize : Nat) : Sharer → Prop
  | holder _ => True
  | writer w => w.Fills memory pageSize
  | page p => p.buffer.Holds memory p.bytes

/-- What others do to their buffers is nothing to a sharer. -/
theorem Sharer.IsSound.frame {memory memory' : Nat → Array UInt8} {pageSize : Nat} {sharer : Sharer}
    (h : sharer.IsSound memory pageSize)
    (same : ∀ b, sharer.buffer? = some b → memory' b.number = memory b.number) :
    sharer.IsSound memory' pageSize := by
  cases sharer with
  | holder buffer => exact h
  | writer w =>
    refine ⟨h.shows, h.begun, ?_, h.paged⟩
    intro b current
    obtain ⟨stands, size⟩ := h.holds b current
    exact ⟨(same b current).trans stands, size⟩
  | page p =>
    obtain ⟨stands, size⟩ := h
    exact ⟨(same p.buffer rfl).trans stands, size⟩

namespace SharedPool

/-- The numbers of the buffers that these sharers have. -/
def numbers (sharers : List Sharer) : List Nat := (sharers.filterMap Sharer.buffer?).map Buffer.number

structure Sound (x : SharedPool) (pageSize maxPooled : Nat) : Prop where
  paged : x.pool.pageSize = pageSize
  limited : x.pool.maxPooled = maxPooled
  accounts : x.pool.Accounts x.live
  empty : ∀ b ∈ x.pool.free, x.memory b.number = #[]
  fresh : ∀ n, x.pool.allocated ≤ n → x.memory n = #[]
  sharers : ∀ sharer ∈ x.sharers, sharer.IsSound x.memory pageSize

variable {x : SharedPool} {pageSize maxPooled : Nat} {sharer : Sharer} {old new others : List Sharer}

theorem numbers_append (old others : List Sharer) :
    numbers (old ++ others) = numbers old ++ numbers others := by
  rw [numbers, List.filterMap_append, List.map_append, numbers, numbers]

theorem numbers_singleton (sharer : Sharer) :
    numbers [sharer] = (sharer.buffer?.map Buffer.number).toList := by
  cases has : sharer.buffer? with
  | none => simp [numbers, has]
  | some b => simp [numbers, has]

theorem mem_numbers {b : Buffer} (member : sharer ∈ others) (has : sharer.buffer? = some b) :
    b.number ∈ numbers others :=
  List.mem_map_of_mem (List.mem_filterMap.mpr ⟨sharer, member, has⟩)

theorem start_sound (pageSize maxPooled : Nat) :
    (start pageSize maxPooled).Sound (max pageSize leastPageSize) maxPooled where
  paged := rfl
  limited := rfl
  accounts := Pool.withMaxPooled_accounts pageSize maxPooled
  empty := fun _ _ => rfl
  fresh := fun _ _ => rfl
  sharers := fun _ h => absurd h List.not_mem_nil

/-- Sharers may do with their own buffers, and hand them to each other, as they like. -/
theorem Sound.redo (h : x.Sound pageSize maxPooled) (old new : List Sharer)
    (memory : Nat → Array UInt8) (was : x.sharers.Perm (old ++ others))
    (same : (numbers old).Perm (numbers new))
    (frame : ∀ n, n ∉ numbers old → memory n = x.memory n)
    (sound : ∀ sharer ∈ new, sharer.IsSound memory pageSize) :
    Sound { x with sharers := new ++ others, memory } pageSize maxPooled := by
  have known : (x.live.map Buffer.number).Perm (numbers old ++ numbers others) := by
    rw [← numbers_append]
    exact (was.filterMap _).map _
  have distinct := ((known.append_right _).nodup_iff.mp h.accounts.distinct)
  have apart : ∀ n ∈ numbers old, n ∉ x.pool.free.map Buffer.number := fun n hn free =>
    (List.nodup_append.mp distinct).2.2 n (List.mem_append_left _ hn) n free rfl
  have others_apart : ∀ n ∈ numbers others, n ∉ numbers old := fun n hn mine =>
    (List.nodup_append.mp (List.nodup_append.mp distinct).1).2.2 n mine n hn rfl
  refine ⟨h.paged, h.limited, ?_, ?_, ?_, ?_⟩
  · have after : (numbers old ++ numbers others).Perm (numbers (new ++ others)) := by
      rw [numbers_append]
      exact same.append_right _
    exact h.accounts.perm (known.trans after)
  · intro b free
    have untouched := frame b.number fun mine => apart _ mine (List.mem_map_of_mem free)
    exact untouched.trans (h.empty b free)
  · intro n unknown
    have untouched := frame n fun mine => by
      have given : n ∈ x.live.map Buffer.number := known.mem_iff.mpr (List.mem_append_left _ mine)
      exact Nat.not_lt.mpr unknown (h.accounts.numbered n (List.mem_append_left _ given))
    exact untouched.trans (h.fresh n unknown)
  · intro sharer member
    rcases List.mem_append.mp member with member | member
    · exact sound sharer member
    · refine (h.sharers sharer (was.mem_iff.mpr (List.mem_append_right _ member))).frame ?_
      intro b has
      exact frame b.number (others_apart _ (mem_numbers member has))

theorem Sound.perm (h : x.Sound pageSize maxPooled) (same : x.sharers.Perm new) :
    Sound { x with sharers := new } pageSize maxPooled :=
  have nobody : x.sharers.Perm ([] ++ new) := same
  h.redo [] [] x.memory nobody (.refl (numbers [])) (fun _ _ => rfl) fun _ none =>
    absurd none List.not_mem_nil

/-- Whoever acquires a buffer gets an empty one of the size it wished for. -/
theorem Sound.acquired (h : x.Sound pageSize maxPooled) (wished : Nat) :
    x.memory (x.pool.acquire wished).1.number = #[] ∧ wished ≤ (x.pool.acquire wished).1.capacity := by
  refine ⟨?_, h.accounts.acquire_capacity wished⟩
  rcases x.pool.acquire_origin wished with ⟨b, rest, free, -, taken⟩ | ⟨capacity, -, taken⟩
  · rw [taken]
    exact h.empty b (free ▸ List.mem_cons_self)
  · rw [taken]
    exact h.fresh _ (Nat.le_refl _)

theorem Sound.acquire (h : x.Sound pageSize maxPooled) (wished : Nat) :
    (x.acquire wished).Sound pageSize maxPooled where
  paged := (PageWriter.acquire_pageSize x.pool wished).trans h.paged
  limited := (x.pool.acquire_maxPooled wished).trans h.limited
  accounts := h.accounts.acquire wished
  empty := by
    intro b free
    apply h.empty b
    change b ∈ (x.pool.acquire wished).2.free at free
    rcases x.pool.acquire_origin wished with ⟨c, rest, was, -, taken⟩ | ⟨capacity, -, taken⟩
    · rw [taken] at free
      rw [was]
      exact List.mem_cons_of_mem _ free
    · rw [taken] at free
      exact free
  fresh := by
    intro n unknown
    apply h.fresh n
    change (x.pool.acquire wished).2.allocated ≤ n at unknown
    rcases x.pool.acquire_origin wished with ⟨b, rest, -, -, taken⟩ | ⟨capacity, -, taken⟩
    · rw [taken] at unknown
      exact unknown
    · rw [taken] at unknown
      exact Nat.le_of_succ_le unknown
  sharers := by
    intro sharer member
    rcases List.mem_cons.mp member with rfl | member
    · trivial
    · exact h.sharers sharer member

/-- A released buffer is empty, kept or not. -/
theorem Sound.release (h : x.Sound pageSize maxPooled) {b : Buffer} (was : x.sharers.Perm (sharer :: others))
    (has : sharer.buffer? = some b) : (x.released b others).Sound pageSize maxPooled := by
  have known : x.live.Perm (b :: others.filterMap Sharer.buffer?) := by
    have live := was.filterMap Sharer.buffer?
    rwa [List.filterMap_cons_some has] at live
  have accounts := h.accounts.perm (known.map Buffer.number)
  refine ⟨h.paged, h.limited, accounts.release, ?_, ?_, ?_⟩
  · intro c free
    by_cases same : c.number = b.number
    · rw [same]
      exact Function.update_self ..
    · refine (Function.update_of_ne same ..).trans ?_
      rw [released, Pool.release_free] at free
      split at free
      · rcases List.mem_cons.mp free with rfl | free
        · exact absurd rfl same
        · exact h.empty c free
      · exact h.empty c free
  · intro n unknown
    by_cases same : n = b.number
    · rw [same]
      exact Function.update_self ..
    · exact (Function.update_of_ne same ..).trans (h.fresh n unknown)
  · intro other member
    refine (h.sharers other (was.mem_iff.mpr (List.mem_cons_of_mem _ member))).frame ?_
    intro c has'
    have apart : c.number ≠ b.number := by
      intro same
      have distinct := (List.nodup_append.mp accounts.distinct).1
      rw [List.map_cons, List.nodup_cons, ← same] at distinct
      exact distinct.1 (mem_numbers member has')
    exact Function.update_of_ne apart ..

end SharedPool

namespace PageWriter

variable {w w' : PageWriter} {s : Schema} {rows : List (List Cell)} {row : List Cell} {b : Buffer}
  {memory : Nat → Array UInt8} {pageSize : Nat}

theorem Fills.set (h : w.Fills memory pageSize) {column : Nat} {cell : Cell}
    (done : w.set column cell = .ok w') : w'.Fills memory pageSize ∧ w'.current = w.current := by
  obtain ⟨rows, row, shows⟩ := h.shows
  have staged := w.set_eq column cell
  cases accepted : w.schema.accepts column cell with
  | true =>
    obtain ⟨w₁, went, next⟩ := shows.set accepted
    rw [accepted, if_pos rfl] at staged
    obtain rfl := Except.ok.inj (went.symm.trans done)
    obtain rfl := Except.ok.inj (staged.symm.trans went)
    exact ⟨⟨⟨_, _, next⟩, h.begun, h.holds, h.paged⟩, rfl⟩
  | false =>
    rw [accepted] at staged
    obtain ⟨e, refused⟩ := staged
    cases refused.symm.trans done

/-- The staged row stays with a writer that hands out its page. -/
theorem Shows.taken (h : w.Shows s rows row) :
    w.takePage.2.Shows s [] row ∧ w.takePage.2.current = none ∧
      w.takePage.1.map Page.buffer = w.current := by
  cases current : w.current with
  | none =>
    have none := h.buffer current
    subst none
    rw [PageWriter.takePage, current]
    exact ⟨h, current, rfl⟩
  | some b =>
    rw [PageWriter.takePage, current]
    exact ⟨h.emptied, rfl, rfl⟩

theorem takePage_staged (w : PageWriter) :
    w.takePage.2.staged = w.staged ∧ w.takePage.2.scratch = w.scratch := by
  unfold PageWriter.takePage
  cases w.current with
  | none => exact ⟨rfl, rfl⟩
  | some b => exact ⟨rfl, rfl⟩

theorem Shows.bytes_nil (h : w.Shows s [] row) : w.bytes = #[] := Array.toList_eq_nil_iff.mp h.bytes

theorem Fills.of_no_buffer (shows : w.Shows s rows row) (current : w.current = none) :
    w.Fills memory pageSize where
  shows := ⟨rows, row, shows.schema ▸ shows⟩
  begun := fun given => absurd current given
  holds := fun b given => by cases current.symm.trans given
  paged := fun b given => by cases current.symm.trans given

theorem Fills.page (h : w.Fills memory pageSize) : ∀ page ∈ w.takePage.1,
    page.buffer.Holds memory page.bytes := by
  intro page handed
  cases current : w.current with
  | none =>
    rw [PageWriter.takePage, current] at handed
    cases handed
  | some b =>
    rw [PageWriter.takePage, current] at handed
    obtain rfl := Option.some.inj handed
    exact h.holds b current

theorem Shows.appended_size (h : w.Shows s rows row) (b : Buffer) :
    (w.appended b).bytes.size = w.bytes.size + s.rowSize row := by
  rw [appended, h.schema, h.staged.encodeRecord_eq, ← Array.length_toList, Array.toList_appendList,
    List.length_append, Array.length_toList, Schema.rowBytes_length h.rowFits]

/-- A record goes into a buffer that has room for it and held the bytes before it. -/
theorem Fills.appended (shows : ∃ rows row, (w.appended b).Shows w.schema rows row)
    (stands : memory b.number = w.bytes) (paged : pageSize ≤ b.capacity)
    (room : (w.appended b).bytes.size ≤ b.capacity) :
    (w.appended b).Fills (Function.update memory b.number (memory b.number ++
      w.schema.encodeRecord w.staged w.scratch (memory b.number).size)) pageSize where
  shows := shows
  begun := fun _ => Nat.succ_ne_zero _
  holds := by
    intro c current
    obtain rfl := Option.some.inj current
    rw [stands]
    exact ⟨Function.update_self .., room⟩
  paged := by
    intro c current
    obtain rfl := Option.some.inj current
    exact paged

/-- A record that was added is shown. -/
theorem Shows.added (h : w.Shows s rows row) {pool pool' : Pool} {page : Option Page}
    (done : w.add pool = (.ok page, w', pool')) : ∃ rows row, w'.Shows s rows row := by
  rcases h.add_or_fail pool with ⟨⟨e, failed⟩, -⟩ | ⟨emitted, w₁, pool₁, added, next⟩
  · rw [done] at failed
    cases failed
  · obtain ⟨-, rfl, -⟩ := Prod.mk.inj (done.symm.trans added) |>.imp id Prod.mk.inj
    rcases next with ⟨-, shows⟩ | ⟨-, -, -, shows⟩
    · exact ⟨_, _, shows⟩
    · exact ⟨_, _, shows⟩

end PageWriter

namespace SharedPool

variable {x : SharedPool} {pageSize maxPooled place : Nat} {sharer : Sharer} {others : List Sharer}
  {w : PageWriter}

theorem chosen (at_place : x.sharers[place]? = some sharer) :
    x.sharers.Perm (sharer :: x.sharers.eraseIdx place) ∧
      ∀ other, (x.sharers.set place other).Perm (other :: x.sharers.eraseIdx place) := by
  obtain ⟨inside, rfl⟩ := List.getElem?_eq_some_iff.mp at_place
  exact ⟨(List.getElem_cons_eraseIdx_perm inside).symm, List.set_perm_cons_eraseIdx inside⟩

/-- A writer becomes a page and a writer without a buffer. -/
theorem Sound.rotate (h : x.Sound pageSize maxPooled) (was : x.sharers.Perm (.writer w :: others)) :
    Sound { x with
      sharers := (w.takePage.1.map Sharer.page).toList ++ .writer w.takePage.2 :: others }
      pageSize maxPooled := by
  have fills : w.Fills x.memory pageSize := h.sharers (.writer w) (was.mem_iff.mpr List.mem_cons_self)
  obtain ⟨rows, row, shows⟩ := fills.shows
  obtain ⟨left, noBuffer, same⟩ := shows.taken
  have numbers_eq : numbers [.writer w] =
      numbers ((w.takePage.1.map Sharer.page).toList ++ [.writer w.takePage.2]) := by
    rw [numbers_append, numbers_singleton, numbers_singleton, Sharer.buffer?, Sharer.buffer?, noBuffer,
      ← same]
    cases w.takePage.1 with
    | none => rfl
    | some page => rfl
  have redone := h.redo [.writer w]
    ((w.takePage.1.map Sharer.page).toList ++ [.writer w.takePage.2]) x.memory was (.of_eq numbers_eq)
    (fun _ _ => rfl) ?_
  · rwa [List.append_assoc] at redone
  · intro sharer member
    rcases List.mem_append.mp member with member | member
    · obtain ⟨page, handed, rfl⟩ := Option.map_eq_some_iff.mp (Option.mem_toList.mp member)
      exact fills.page page handed
    · rw [List.mem_singleton.mp member]
      exact PageWriter.Fills.of_no_buffer left noBuffer

/-- The staged record goes into a buffer that its writer had or that was acquired for it. -/
theorem Sound.append (h : x.Sound pageSize maxPooled) {old : List Sharer} {b : Buffer}
    (was : x.sharers.Perm (old ++ others)) (only : numbers old = [b.number])
    (shows : ∃ rows row, (w.appended b).Shows w.schema rows row) (stands : x.memory b.number = w.bytes)
    (paged : pageSize ≤ b.capacity) (room : (w.appended b).bytes.size ≤ b.capacity) :
    Sound { x with
      sharers := .writer (w.appended b) :: others
      memory := Function.update x.memory b.number (x.memory b.number ++
        w.schema.encodeRecord w.staged w.scratch (x.memory b.number).size) } pageSize maxPooled := by
  refine h.redo old [.writer (w.appended b)] _ was (.of_eq only) ?_ ?_
  · intro n other
    rw [only, List.mem_singleton] at other
    exact Function.update_of_ne other ..
  · intro sharer member
    rw [List.mem_singleton.mp member]
    exact PageWriter.Fills.appended shows stands paged room

theorem Sound.write_set (h : x.Sound pageSize maxPooled) (at_place : x.sharers[place]? = some (.writer w))
    (column : Nat) (cell : Cell) :
    (x.write place w (.set column cell)).Sound pageSize maxPooled := by
  obtain ⟨was, replaced⟩ := chosen at_place
  have fills : w.Fills x.memory pageSize := h.sharers (.writer w) (was.mem_iff.mpr List.mem_cons_self)
  rw [write]
  cases done : w.set column cell with
  | error e => exact h
  | ok w' =>
    obtain ⟨next, current⟩ := fills.set done
    have same : numbers [.writer w] = numbers [.writer w'] := by
      rw [numbers_singleton, numbers_singleton, Sharer.buffer?, Sharer.buffer?, current]
    have redone := h.redo [.writer w] [.writer w'] x.memory was (.of_eq same)
      (fun _ _ => rfl) ?_
    · exact redone.perm (replaced _).symm
    · intro sharer member
      rw [List.mem_singleton.mp member]
      exact next

theorem Sound.write_add (h : x.Sound pageSize maxPooled)
    (at_place : x.sharers[place]? = some (.writer w)) :
    (x.write place w .add).Sound pageSize maxPooled := by
  obtain ⟨was, replaced⟩ := chosen at_place
  have fills : w.Fills x.memory pageSize := h.sharers (.writer w) (was.mem_iff.mpr List.mem_cons_self)
  obtain ⟨rows, row, shows⟩ := fills.shows
  have page := h.paged
  rw [write]
  rcases shows.add_cases x.pool with refused | ⟨b, current, behind, added⟩ | added
  · rw [refused]
    exact h.perm (was.trans (replaced _).symm)
  · obtain ⟨stands, size⟩ := fills.holds b current
    have paged := fills.paged b current
    have begun := fills.begun (by rw [current]; exact Option.some_ne_none b)
    have room : (w.appended b).bytes.size ≤ b.capacity := by
      rw [shows.appended_size]
      omega
    have only : numbers [.writer w] = [b.number] := by
      rw [numbers_singleton, Sharer.buffer?, current]
      rfl
    have appended := h.append was only (shows.added added) stands paged room
    rw [added]
    exact appended.perm (replaced _).symm
  · obtain ⟨left, noBuffer, -⟩ := shows.taken
    obtain ⟨record, paged⟩ := PageWriter.le_wish x.pool (w.schema.rowSize row)
    have shown := shows.added added
    obtain ⟨empty, large⟩ := h.acquired (PageWriter.wish x.pool (w.schema.rowSize row))
    have acquired := (h.rotate was).acquire (PageWriter.wish x.pool (w.schema.rowSize row))
    rw [SharedPool.acquire] at acquired
    rw [added]
    generalize x.pool.acquire (PageWriter.wish x.pool (w.schema.rowSize row)) = taken at *
    have room : (w.takePage.2.appended taken.1).bytes.size ≤ taken.1.capacity := by
      rw [left.appended_size, left.bytes_nil, Array.size_empty]
      omega
    have only : numbers [.holder taken.1, .writer w.takePage.2] = [taken.1.number] := by
      simp [numbers, Sharer.buffer?, noBuffer]
    have moved : (Sharer.holder taken.1 ::
        ((w.takePage.1.map Sharer.page).toList ++ .writer w.takePage.2 :: x.sharers.eraseIdx place)).Perm
        ([.holder taken.1, .writer w.takePage.2] ++
          ((w.takePage.1.map Sharer.page).toList ++ x.sharers.eraseIdx place)) :=
      List.perm_middle.cons _
    rw [← left.schema] at shown
    have appended := acquired.append moved only shown (empty.trans left.bytes_nil.symm)
      (by omega) room
    have settled : (Sharer.writer (w.takePage.2.appended taken.1) ::
        ((w.takePage.1.map Sharer.page).toList ++ x.sharers.eraseIdx place)).Perm
        ((w.takePage.1.map Sharer.page).toList ++
          x.sharers.set place (.writer (w.takePage.2.appended taken.1))) :=
      List.perm_middle.symm.trans ((replaced _).symm.append_left _)
    have done := appended.perm settled
    rw [w.takePage_staged.1, w.takePage_staged.2, left.schema] at done
    exact done

theorem Sound.write_flush (h : x.Sound pageSize maxPooled)
    (at_place : x.sharers[place]? = some (.writer w)) :
    (x.write place w .flush).Sound pageSize maxPooled := by
  obtain ⟨was, replaced⟩ := chosen at_place
  have fills : w.Fills x.memory pageSize := h.sharers (.writer w) (was.mem_iff.mpr List.mem_cons_self)
  obtain ⟨rows, row, shows⟩ := fills.shows
  have rotated := h.rotate was
  rw [write, PageWriter.flush]
  by_cases zero : w.recordCount = 0
  · have noBuffer : w.current = none := by
      by_contra given
      exact fills.begun given zero
    have bytes : w.bytes = #[] := by
      rw [shows.buffer noBuffer] at shows
      exact shows.bytes_nil
    have same : { w with current := none, bytes := #[] } = w := by
      rw [← noBuffer, ← bytes]
    rw [if_pos zero, same, noBuffer]
    exact h.perm (was.trans (replaced _).symm)
  · obtain ⟨page, handed, -⟩ := shows.takePage fun none => zero (by rw [shows.count, none]; rfl)
    rw [handed] at rotated
    rw [if_neg zero, handed]
    exact rotated.perm ((replaced _).symm.cons _)

theorem Sound.write (h : x.Sound pageSize maxPooled) (at_place : x.sharers[place]? = some (.writer w))
    (op : PageOperation) : (x.write place w op).Sound pageSize maxPooled := by
  cases op with
  | set column cell => exact h.write_set at_place column cell
  | add => exact h.write_add at_place
  | flush => exact h.write_flush at_place

theorem Sound.fill (h : x.Sound pageSize maxPooled) (place : Nat) (content : Array UInt8) (spare : Nat) :
    (x.perform (.fill place content spare)).Sound pageSize maxPooled := by
  rw [perform]
  split
  case h_1 buffer at_place =>
    obtain ⟨was, replaced⟩ := chosen at_place
    have redone := h.redo [.holder buffer]
      [.holder { buffer with capacity := max buffer.capacity (content.size + spare) }]
      (Function.update x.memory buffer.number content) was (.refl [buffer.number]) ?_ ?_
    · exact redone.perm (replaced _).symm
    · intro n other
      have apart : n ≠ buffer.number := fun same => other (List.mem_singleton.mpr same)
      exact Function.update_of_ne apart ..
    · intro sharer member
      rw [List.mem_singleton.mp member]
      trivial
  case h_2 => exact h

theorem Sound.openWriter (h : x.Sound pageSize maxPooled) (schema : Schema) :
    (x.perform (.openWriter schema)).Sound pageSize maxPooled := by
  refine h.redo [] [.writer (.ofSchema schema)] x.memory (.refl x.sharers)
    (.refl (numbers [])) (fun _ _ => rfl) ?_
  intro sharer member
  rw [List.mem_singleton.mp member]
  exact PageWriter.Fills.of_no_buffer (PageWriter.ofSchema_shows schema) rfl

theorem Sound.drop (h : x.Sound pageSize maxPooled) (place : Nat) :
    (x.perform (.drop place)).Sound pageSize maxPooled := by
  rw [perform]
  split
  case h_1 => exact h
  case h_2 sharer at_place =>
    obtain ⟨was, -⟩ := chosen at_place
    split
    case h_1 nothing =>
      have none : numbers [sharer] = numbers [] := by
        rw [numbers_singleton, nothing]
        rfl
      exact h.redo [sharer] [] x.memory was (.of_eq none) (fun _ _ => rfl)
        fun _ nobody => absurd nobody List.not_mem_nil
    case h_2 buffer has => exact h.release was has

/-- Every operation leaves a sound pool sound. -/
theorem Sound.perform (h : x.Sound pageSize maxPooled) (op : PoolOperation) :
    (x.perform op).Sound pageSize maxPooled := by
  cases op with
  | acquire wished => exact h.acquire wished
  | fill place content spare => exact h.fill place content spare
  | openWriter schema => exact h.openWriter schema
  | write place op =>
    rw [SharedPool.perform]
    split
    case h_1 w at_place => exact h.write at_place op
    case h_2 => exact h
  | drop place => exact h.drop place

theorem Sound.run (h : x.Sound pageSize maxPooled) (ops : List PoolOperation) :
    (x.run ops).Sound pageSize maxPooled := by
  induction ops generalizing x with
  | nil => exact h
  | cons op ops ih => exact ih (h.perform op)

end SharedPool

/-- After any operations of any sharers on one pool: it counts the buffers that are out, no buffer is
out twice, free twice or both, the free ones are few enough, empty and of one to two pages, whoever
acquires one gets an empty one that is large enough, and writers and pages have their bytes in buffers
that never grew. -/
theorem shared_pool_accounts (pageSize maxPooled : Nat) (ops : List PoolOperation) :
    let x := (SharedPool.start pageSize maxPooled).run ops
    x.pool.outstanding = x.live.length ∧
      (x.live.map Buffer.number ++ x.pool.free.map Buffer.number).Nodup ∧
      x.pool.pooled ≤ maxPooled ∧
      (∀ b ∈ x.pool.free, x.memory b.number = #[] ∧ x.pool.pageSize ≤ b.capacity ∧
        b.capacity ≤ 2 * x.pool.pageSize) ∧
      (∀ wished, x.memory (x.pool.acquire wished).1.number = #[] ∧
        wished ≤ (x.pool.acquire wished).1.capacity) ∧
      (∀ w b, .writer w ∈ x.sharers → w.current = some b → b.Holds x.memory w.bytes) ∧
      ∀ p, .page p ∈ x.sharers → p.buffer.Holds x.memory p.bytes := by
  intro x
  have sound := (SharedPool.start_sound pageSize maxPooled).run ops
  refine ⟨sound.accounts.counted, sound.accounts.distinct, ?_, ?_, sound.acquired, ?_, ?_⟩
  · rw [← sound.limited]
    exact sound.accounts.room
  · intro b free
    exact ⟨sound.empty b free, sound.accounts.sized b free⟩
  · intro w b member current
    have fills : w.Fills x.memory _ := sound.sharers (.writer w) member
    exact fills.holds b current
  · intro p member
    exact sound.sharers (.page p) member

/-- Of three buffers the one of more than two pages is not kept. -/
example :
    let x := (SharedPool.start 64 2).run
      [.acquire 10, .acquire 100, .acquire 200, .drop 0, .drop 0, .drop 0]
    x.pool.outstanding = 0 ∧ x.pool.free = [⟨0, 64⟩, ⟨1, 100⟩] := by decide

end BulkTransfer
