import BulkTransfer.Page.Reader
import BulkTransfer.Plugin.Feed
import BulkTransfer.Proofs.Schema.Columns
import BulkTransfer.Proofs.World.Trails
/-!
# What passes a chain

A chain is told pages, its end, and that it is closed. A stage in front of it behaves in a certain way
when this is what it makes of its own calls, whatever the chain and whatever the world does in between.
Stages that follow each other make of the calls what the first makes of them, then the second. Where the
rows of pages are all that counts, they are changed by the first stage, then by the second.
-/
namespace BulkTransfer

variable {σ τ α : Type}

/-- A call on a chain, with its answer. -/
inductive ChainCall where
  | add (page : Page) (answer : Attempt Unit)
  | finish (answer : Attempt Unit)
  | close

/-- What a stage may make of the calls on it: calls on the chain behind it. -/
abbrev Behaviour := List ChainCall → List ChainCall → Prop

section Chains

/-- The chain can answer the call so. -/
def PageChain.Steps (c : PageChain σ) (s : σ) (call : ChainCall) (s' : σ) : Prop :=
  match call with
  | .add page answer => ((c.add page).attempt s).CanEnd (answer, s')
  | .finish answer => (c.finish.attempt s).CanEnd (answer, s')
  | .close => (c.close s).CanEnd ((), s')

/-- A call on a part of a larger state is one on the part. -/
theorem SureCall.canEnd_zoom {get : τ → σ} {set : σ → τ → τ} (same : ∀ s t, get (set s t) = s)
    {f : SureCall σ α} {t t' : τ} {a : α} (h : ((SureCall.zoom get set f) t).CanEnd (a, t')) :
    (f (get t)).CanEnd (a, get t') := by
  obtain ⟨⟨b, s⟩, inner, ⟨⟩⟩ := Program.canEnd_andThen.mp h
  rwa [same]

/-- A chain on a part of a larger state. -/
def PageChain.zoom (c : PageChain σ) (get : τ → σ) (set : σ → τ → τ) : PageChain τ :=
  ⟨fun page => (c.add page).zoom get set, c.finish.zoom get set, SureCall.zoom get set c.close⟩

theorem PageChain.Steps.zoom {c : PageChain σ} {get : τ → σ} {set : σ → τ → τ}
    (same : ∀ s t, get (set s t) = s) {t t' : τ} {call : ChainCall}
    (h : (c.zoom get set).Steps t call t') : c.Steps (get t) call (get t') := by
  cases call with
  | add page answer => exact SureCall.canEnd_zoom (f := (c.add page).attempt) same h
  | finish answer => exact SureCall.canEnd_zoom (f := c.finish.attempt) same h
  | close => exact SureCall.canEnd_zoom same h

namespace FilterStage

/-- In front of any chain, the stage makes this of the calls on it. -/
def Behaves (stage : FilterStage) (T : Behaviour) : Prop :=
  ∀ {σ : Type} (c : PageChain σ) {calls : List ChainCall} {s : σ} {t : stage.State × σ},
    Trail (stage.wrap c).Steps (stage.initial, s) calls t →
      ∃ handed, Trail c.Steps s handed t.2 ∧ T calls handed

theorem Behaves.mono {stage : FilterStage} {T T' : Behaviour} (h : stage.Behaves T)
    (weaker : ∀ calls handed, T calls handed → T' calls handed) : stage.Behaves T' := by
  intro σ c calls s t trail
  obtain ⟨handed, under, made⟩ := h c trail
  exact ⟨handed, under, weaker calls handed made⟩

theorem passing_behaves : passing.Behaves Eq :=
  fun c _ _ _ trail => ⟨_, trail.part Prod.snd fun _ _ _ h => h.zoom (c := c) fun _ _ => rfl, rfl⟩

theorem Behaves.followedBy {first second : FilterStage} {T T' : Behaviour} (h : first.Behaves T)
    (h' : second.Behaves T') : (first.followedBy second).Behaves (Relation.Comp T T') := by
  intro σ c calls s t trail
  let get : (first.State × second.State) × σ → first.State × second.State × σ :=
    fun t => (t.1.1, t.1.2, t.2)
  have outer : Trail (first.wrap (second.wrap c)).Steps (first.initial, second.initial, s) calls
      (get t) := trail.part get fun _ _ _ h => h.zoom (c := first.wrap (second.wrap c)) fun _ _ => rfl
  obtain ⟨between, middle, made⟩ := h (second.wrap c) outer
  obtain ⟨handed, inner, made'⟩ := h' c middle
  exact ⟨handed, inner, between, made, made'⟩

end FilterStage

/-- What is read into a chain was offered to it, and answered by it. -/
theorem PageChain.receive_canEnd {c : PageChain σ} {feed : Feed α} {s s' : σ} {a : α}
    (h : (c.receive feed s).CanEnd (a, s')) : ∃ offered, feed.Talks offered a ∧
      Trail c.Steps s (offered.map fun x => .add x.1 x.2) s' := by
  obtain ⟨offered, talks, trail⟩ := Program.canEnd_answered.mp h
  exact ⟨offered, talks, trail.renamed (r := c.Steps)
    (fun x : Page × Attempt Unit => .add x.1 x.2) fun _ _ _ h => h⟩

end Chains

section Columns

namespace Schema.SameTypes

variable {s t : Schema}

theorem typeOf? (h : s.SameTypes t) (column : Nat) : s.typeOf? column = t.typeOf? column := by
  have types := congrArg (·[column]?) h
  rwa [List.getElem?_map, List.getElem?_map] at types

theorem slotOffset? (h : s.SameTypes t) (column : Nat) : s.slotOffset? column = t.slotOffset? column := by
  rw [Schema.slotOffset?, Schema.slotOffset?, h.size, h.slotWidths, slotsStart, slotsStart, bitmapSize,
    bitmapSize, h.size]

end Schema.SameTypes

theorem Schema.expectType_ok {s : Schema} {column : Nat} {type : ColumnType} (h : s.typeOf? column = some type) :
    s.expectType column type = .ok () := by
  obtain ⟨c, found, rfl⟩ := Option.map_eq_some_iff.mp h
  simp [expectType, found]

/-- A column is read by its own type whatever the names of the columns. -/
theorem Record.cell_sameTypes {s t : Schema} (h : s.SameTypes t) (data : Array UInt8) (start column : Nat) :
    (⟨data, start, s⟩ : Record).cell column = (⟨data, start, t⟩ : Record).cell column := by
  cases known : s.typeOf? column with
  | none => simp only [cell, ← h.typeOf?, known, h.size]
  | some type =>
    have known' : t.typeOf? column = some type := (h.typeOf? column).symm.trans known
    have slot : (⟨data, start, s⟩ : Record).slot? column type = (⟨data, start, t⟩ : Record).slot? column type := by
      simp only [slot?, Schema.expectType_ok known, Schema.expectType_ok known', h.slotOffset?, h.size]
      rfl
    cases type <;>
      simp only [cell, known, known', boolean?, long?, double?, timestamp?, string?, json?, content?, slot]

theorem Page.rows_sameTypes {s t : Schema} (h : s.SameTypes t) (page : Page) : page.rows s = page.rows t := by
  have cells : ∀ start, (⟨page.bytes, start, s⟩ : Record).cells = (⟨page.bytes, start, t⟩ : Record).cells := by
    intro start
    simp only [Record.cells, h.size]
    exact congrArg (List.mapM · _) (funext fun column => Record.cell_sameTypes h page.bytes start column)
  simp only [rows, records, List.mapM_map]
  exact congrArg (List.mapM · _) (funext cells)

end Columns

section Rows

/-- The rows of pages, one page after the other. -/
def Page.rowsOf (schema : Schema) : List Page → Except PageError (List (List Cell))
  | [] => .ok []
  | page :: rest => do return (← page.rows schema) ++ (← rowsOf schema rest)

theorem Page.rowsOf_cons {schema : Schema} {page : Page} {pages : List Page} {rows : List (List Cell)} :
    rowsOf schema (page :: pages) = .ok rows ↔ ∃ first rest, page.rows schema = .ok first ∧
      rowsOf schema pages = .ok rest ∧ rows = first ++ rest := by
  rw [rowsOf]
  cases page.rows schema with
  | error e => simp [bind, Except.bind]
  | ok first =>
    cases rowsOf schema pages with
    | error e => simp [bind, Except.bind]
    | ok rest => simp [bind, Except.bind, pure, Except.pure, eq_comm]

theorem Page.rowsOf_append {schema : Schema} {pages pages' : List Page} {rows rows' : List (List Cell)}
    (h : rowsOf schema pages = .ok rows) (h' : rowsOf schema pages' = .ok rows') :
    rowsOf schema (pages ++ pages') = .ok (rows ++ rows') := by
  induction pages generalizing rows with
  | nil =>
    cases h
    exact h'
  | cons page pages ih =>
    obtain ⟨first, rest, here, there, rfl⟩ := rowsOf_cons.mp h
    exact rowsOf_cons.mpr ⟨first, rest ++ rows', here, ih there, List.append_assoc ..⟩

/-- Where both schemas read pages alike, they find the same rows. -/
theorem Page.rowsOf_alike {source target : Schema}
    (alike : ∀ (page : Page) rows, page.rows source = .ok rows → page.rows target = .ok rows)
    {pages : List Page} {rows : List (List Cell)} (h : rowsOf source pages = .ok rows) :
    rowsOf target pages = .ok rows := by
  induction pages generalizing rows with
  | nil => exact h
  | cons page pages ih =>
    obtain ⟨first, rest, here, there, rfl⟩ := rowsOf_cons.mp h
    exact rowsOf_cons.mpr ⟨first, rest, alike page first here, ih there, rfl⟩

/-- All of the pages are taken, and the chain is finished well. -/
def ChainCall.whole (pages : List Page) : List ChainCall :=
  pages.map (fun page => add page (.ok ())) ++ [finish (.ok ()), close]

/-- Where all is taken, rows under one schema become other rows under another one. -/
def ChangesRows (source target : Schema) (R : List (List Cell) → List (List Cell)) : Behaviour :=
  fun calls handed => ∀ pages, calls = ChainCall.whole pages → ∃ pages', handed = ChainCall.whole pages' ∧
    ∀ rows, Page.rowsOf source pages = .ok rows → Page.rowsOf target pages' = .ok (R rows)

/-- Pages that pass as they are keep their rows where both schemas read them alike. -/
theorem changesRows_id {source target : Schema}
    (alike : ∀ (page : Page) rows, page.rows source = .ok rows → page.rows target = .ok rows)
    (calls : List ChainCall) : ChangesRows source target id calls calls := by
  rintro pages rfl
  exact ⟨pages, rfl, fun _ => Page.rowsOf_alike alike⟩

end Rows

end BulkTransfer
