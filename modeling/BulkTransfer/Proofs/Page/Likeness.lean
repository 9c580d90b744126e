import BulkTransfer.Page.Reader
/-!
# Pages in other buffers

Which buffer a page is written in has no say in what the page holds. Writers that differ at most in
their buffers fail alike, hand out pages with the same records, and differ in nothing else
afterwards.
-/
namespace BulkTransfer

namespace Page

/-- The same records, in whatever buffers. -/
structure Like (p q : Page) : Prop where
  bytes : p.bytes = q.bytes
  count : p.recordCount = q.recordCount

theorem Like.records {p q : Page} (h : p.Like q) (s : Schema) : p.records s = q.records s := by
  rw [Page.records, Page.records, h.bytes, h.count]

end Page

namespace PageWriter

/-- The same records, in whatever buffers, if any. -/
def Like (w v : PageWriter) : Prop :=
  ∃ held : Option Buffer, held.isSome = w.current.isSome ∧ v = { w with current := held }

variable {w v : PageWriter} {pool pool' : Pool}

theorem Like.refl (w : PageWriter) : w.Like w := ⟨w.current, rfl, rfl⟩

/-- A cell is refused or staged whatever the buffer. -/
theorem set_cases (w : PageWriter) (index : Nat) (cell : Cell) :
    (∃ e, ∀ held, { w with current := held }.set index cell = .error e) ∨
      ∀ held, { w with current := held }.set index cell = .ok { w with
        current := held
        staged := w.staged.set index (cell.stage w.scratch).1
        scratch := (cell.stage w.scratch).2 } := by
  unfold PageWriter.set
  cases cell.type? with
  | some type =>
    cases accepted : w.schema.expectType index type with
    | error e => exact .inl ⟨e, fun held => by simp only [accepted]; rfl⟩
    | ok _ => exact .inr fun held => by simp only [accepted]; rfl
  | none =>
    by_cases outside : index ≥ w.schema.size
    · exact .inl ⟨.columnOutOfRange index w.schema.size, fun held => by simp only [if_pos outside]; rfl⟩
    · exact .inr fun held => by simp only [if_neg outside]; rfl

theorem Like.set (h : w.Like v) (index : Nat) (cell : Cell) :
    (∃ e, w.set index cell = .error e ∧ v.set index cell = .error e) ∨
      ∃ w' v', w.set index cell = .ok w' ∧ v.set index cell = .ok v' ∧ w'.Like v' := by
  obtain ⟨held, same, rfl⟩ := h
  rcases w.set_cases index cell with ⟨e, refused⟩ | staged
  · exact .inl ⟨e, refused w.current, refused held⟩
  · exact .inr ⟨_, _, staged w.current, staged held, held, same, rfl⟩

theorem Like.takePage (h : w.Like v) :
    Option.Rel Page.Like w.takePage.1 v.takePage.1 ∧ w.takePage.2.Like v.takePage.2 := by
  obtain ⟨held, same, rfl⟩ := h
  unfold PageWriter.takePage
  cases current : w.current with
  | none =>
    rw [current] at same
    obtain rfl : held = none := by simpa using same
    exact ⟨.none, none, congrArg Option.isSome current.symm, rfl⟩
  | some buffer =>
    rw [current] at same
    obtain ⟨other, rfl⟩ := Option.isSome_iff_exists.mp same
    exact ⟨.some ⟨rfl, rfl⟩, none, rfl, rfl⟩

/-- With pages of one size, a record goes to both writers in the same way. -/
theorem Like.add (h : w.Like v) (sized : pool'.pageSize = pool.pageSize) :
    ((∃ e, (w.add pool).1 = .error e ∧ (v.add pool').1 = .error e) ∨
      ∃ page? page?', (w.add pool).1 = .ok page? ∧ (v.add pool').1 = .ok page?' ∧
        Option.Rel Page.Like page? page?') ∧
      (w.add pool).2.1.Like (v.add pool').2.1 := by
  obtain ⟨page, other, -, taken⟩ := h.takePage
  obtain ⟨held, same, rfl⟩ := h
  unfold PageWriter.add
  dsimp only
  rw [same, sized]
  split
  · exact ⟨.inl ⟨_, rfl, rfl⟩, held, same, rfl⟩
  · split
    · rw [taken]
      dsimp only
      split
      · refine ⟨.inl ⟨_, rfl, rfl⟩, _, ?_, rfl⟩
        rfl
      · refine ⟨.inr ⟨_, _, rfl, rfl, page⟩, _, ?_, rfl⟩
        rfl
    · split
      · refine ⟨.inl ⟨_, rfl, rfl⟩, _, ?_, rfl⟩
        rfl
      · refine ⟨.inr ⟨_, _, rfl, rfl, .none⟩, _, ?_, rfl⟩
        rfl

theorem Like.flush (h : w.Like v) :
    Option.Rel Page.Like (w.flush pool).1 (v.flush pool').1 ∧
      (w.flush pool).2.1.Like (v.flush pool').2.1 := by
  obtain ⟨page, rest⟩ := h.takePage
  obtain ⟨held, same, rfl⟩ := h
  unfold PageWriter.flush
  dsimp only
  split
  · exact ⟨.none, none, rfl, rfl⟩
  · exact ⟨page, rest⟩

end PageWriter

end BulkTransfer
