import BulkTransfer.Plugin.Feed
import BulkTransfer.Proofs.World.Region
/-!
# Calls on an output

What an output is told, and what it answers, in order. A machine keeps a log when each call on it makes
the log longer by what the call says; a chain in front of an output forwards when it makes of its own
calls nothing but data, and of its end at most one end. What a chain forwards, a list of filters
forwards, and whatever feeds it.
-/
namespace BulkTransfer

variable {σ τ α β ι D : Type}

/-- A call on an output with its answer. How data is handed over is another matter for pages than for
the bytes of files. -/
inductive OutputCall (D : Type) where
  | hand (data : D)
  | finish (answer : Attempt Unit)
  | commit (answer : Attempt Report)
  | abort
  | close

/-- A page that was handed over. -/
structure PageCall where
  page : Page
  answer : Attempt Unit

/-- The bytes of files that were handed over. -/
inductive FileCall where
  | nextFile (answer : Attempt Unit)
  | add (data : Bytes) (answer : Attempt Unit)

namespace OutputCall

def Hands (calls : List (OutputCall D)) : Prop := ∀ call ∈ calls, ∃ data, call = .hand data

/-- Data is handed over, then the output is finished at most once. It was finished, and well, where all
is said to have gone well. -/
def Feeds (well : Prop) (calls : List (OutputCall D)) : Prop :=
  ∃ handed finishing, calls = handed ++ finishing ∧ Hands handed ∧
    (finishing = [] ∨ ∃ answer, finishing = [.finish answer]) ∧
      (well → finishing = [.finish (.ok ())])

theorem Hands.nil : Hands ([] : List (OutputCall D)) := by simp [Hands]

theorem Hands.append {first second : List (OutputCall D)} (h : Hands first) (h' : Hands second) :
    Hands (first ++ second) := by
  intro call hm
  exact (List.mem_append.mp hm).elim (h call) (h' call)

theorem Hands.feeds {calls : List (OutputCall D)} (h : Hands calls) : Feeds False calls :=
  ⟨calls, [], (List.append_nil calls).symm, h, .inl rfl, False.elim⟩

theorem Feeds.after {well : Prop} {first calls : List (OutputCall D)} (hands : Hands first)
    (h : Feeds well calls) : Feeds well (first ++ calls) := by
  obtain ⟨handed, finishing, rfl, h, ended⟩ := h
  exact ⟨first ++ handed, finishing, (List.append_assoc ..).symm, hands.append h, ended⟩

theorem Feeds.imp {well well' : Prop} {calls : List (OutputCall D)} (h : Feeds well calls)
    (weaker : well' → well) : Feeds well' calls := by
  obtain ⟨handed, finishing, same, hands, once, finished⟩ := h
  exact ⟨handed, finishing, same, hands, once, fun hw => finished (weaker hw)⟩

/-- An output that is fed is not committed yet. -/
theorem Feeds.uncommitted {well : Prop} {calls : List (OutputCall D)} (h : Feeds well calls)
    (answer : Attempt Report) : .commit answer ∉ calls := by
  obtain ⟨handed, finishing, rfl, hands, once, -⟩ := h
  intro hm
  rcases List.mem_append.mp hm with hm | hm
  · obtain ⟨data, same⟩ := hands _ hm
    cases same
  · rcases once with rfl | ⟨_, rfl⟩ <;> simp at hm

end OutputCall

open OutputCall (Hands Feeds)

/-- Of two calls the second one goes on where the first has ended. -/
theorem SureCall.run_bind (f : SureCall σ α) (g : α → SureCall σ β) (s : σ) (w : World) :
    ((f >>= g) s).run w = (g ((f s).run w).1.1 ((f s).run w).1.2).run ((f s).run w).2 :=
  Program.run_andThen _ _ _

section Logs

/-- The call makes the log longer, by something that fits to its answer. -/
def SureCall.Logs (f : SureCall σ α) (log : σ → List ι) (P : α → List ι → Prop) : Prop :=
  ∀ s w, ∃ new, log ((f s).run w).1.2 = log s ++ new ∧ P ((f s).run w).1.1 new

variable {log : σ → List ι} {P : α → List ι → Prop} {Q : α → β → List ι → Prop}

namespace SureCall.Logs

variable {f : SureCall σ α} {g : α → SureCall σ β}

theorem mono {S : α → List ι → Prop} (h : f.Logs log P) (weaker : ∀ a new, P a new → S a new) :
    f.Logs log S := by
  intro s w
  obtain ⟨new, grown, hp⟩ := h s w
  exact ⟨new, grown, weaker _ _ hp⟩

theorem pure (a : α) : SureCall.Logs (Pure.pure a) log fun b new => b = a ∧ new = [] :=
  fun s _ => ⟨[], (List.append_nil (log s)).symm, rfl, rfl⟩

theorem bind (h : f.Logs log P) (hg : ∀ a, (g a).Logs log (Q a)) :
    SureCall.Logs (f >>= g) log fun b new =>
      ∃ a first second, new = first ++ second ∧ P a first ∧ Q a b second := by
  intro s w
  obtain ⟨first, grown, hp⟩ := h s w
  obtain ⟨second, grown', hq⟩ := hg ((f s).run w).1.1 ((f s).run w).1.2 ((f s).run w).2
  rw [SureCall.run_bind]
  refine ⟨first ++ second, ?_, _, first, second, rfl, hp, hq⟩
  rw [grown', grown, List.append_assoc]

theorem zoom {get : τ → σ} {set : σ → τ → τ} (same : ∀ s t, get (set s t) = s)
    (h : f.Logs log P) : (SureCall.zoom get set f).Logs (fun t => log (get t)) P := by
  intro t w
  have runs : ((SureCall.zoom get set f) t).run w =
      ((((f (get t)).run w).1.1, set ((f (get t)).run w).1.2 t), ((f (get t)).run w).2) :=
    Program.run_andThen _ _ _
  rw [runs]
  simpa only [same] using h (get t) w

theorem lift (a : Action α) :
    SureCall.Logs (StateT.lift a) log fun _ new => new = [] := by
  intro s w
  have runs : ((StateT.lift a : SureCall σ α) s).run w = (((a.run w).1, s), (a.run w).2) :=
    Program.run_andThen _ _ _
  rw [runs]
  exact ⟨[], (List.append_nil (log s)).symm, rfl⟩

/-- Something is done to the world before, and undone behind. -/
theorem between {γ : Type} (h : f.Logs log P) (before : Action β) (after : β → Action γ) :
    SureCall.Logs (do
      let b ← StateT.lift before
      let result ← f
      let _ ← StateT.lift (after b)
      return result) log P := by
  refine (bind (lift before) fun b =>
    bind h fun result => bind (lift (after b)) fun _ => pure result).mono ?_
  rintro _ _ ⟨_, _, _, rfl, rfl, _, new, _, rfl, hp, _, _, _, rfl, rfl, rfl, rfl⟩
  simpa using hp

end SureCall.Logs

/-- Of two calls the second is made where the first one has not failed. -/
theorem Call.logs_bind {c : Call σ α} {f : α → Call σ β} {P : Attempt α → List ι → Prop}
    {Q : α → Attempt β → List ι → Prop} (h : c.attempt.Logs log P)
    (hf : ∀ a, (f a).attempt.Logs log (Q a)) :
    (c >>= f).attempt.Logs log fun b new => (∃ e, b = .error e ∧ P (.error e) new) ∨
      ∃ a first second, new = first ++ second ∧ P (.ok a) first ∧ Q a b second := by
  have both := SureCall.Logs.bind (Q := fun a b new => (∃ e, a = .error e ∧ b = .error e ∧ new = []) ∨
    ∃ x, a = .ok x ∧ Q x b new) h (g := fun a => ExceptT.bindCont (fun x => f x) a) ?_
  · refine both.mono ?_
    rintro b _ ⟨a, first, second, rfl, hp, ⟨e, rfl, rfl, rfl⟩ | ⟨x, rfl, hq⟩⟩
    · exact .inl ⟨e, rfl, by rwa [List.append_nil]⟩
    · exact .inr ⟨x, first, second, rfl, hp, hq⟩
  · rintro (e | x)
    · exact (SureCall.Logs.pure (Except.error e)).mono fun b new h => .inl ⟨e, rfl, h⟩
    · exact (hf x).mono fun b new h => .inr ⟨x, rfl, h⟩

theorem Call.logs_zoom {c : Call σ α} {P : Attempt α → List ι → Prop} {get : τ → σ}
    {set : σ → τ → τ} (same : ∀ s t, get (set s t) = s) (h : c.attempt.Logs log P) :
    (c.zoom get set).attempt.Logs (fun t => log (get t)) P :=
  SureCall.Logs.zoom same h

/-- Does as before, and keeps what was called. -/
def SureCall.noted (call : α → ι) (f : SureCall σ α) : SureCall (σ × List ι) α := fun t => do
  let (answer, s) ← f t.1
  return (answer, s, t.2 ++ [call answer])

theorem SureCall.noted_logs (call : α → ι) (f : SureCall σ α) :
    (SureCall.noted call f).Logs Prod.snd fun answer new => new = [call answer] := by
  intro t w
  have runs : ((SureCall.noted call f) t).run w =
      ((((f t.1).run w).1.1, ((f t.1).run w).1.2, t.2 ++ [call ((f t.1).run w).1.1]),
        ((f t.1).run w).2) := Program.run_andThen _ _ _
  rw [runs]
  exact ⟨_, rfl, rfl⟩

end Logs

section Chains

variable {log : σ → List (OutputCall D)}

/-- The chain makes of its pages nothing but data, and of its end more data and the end; it does not
hide that the end has failed. -/
structure PageChain.Forwards (c : PageChain σ) (log : σ → List (OutputCall D)) : Prop where
  add : ∀ page, (c.add page).attempt.Logs log fun _ new => Hands new
  finish : c.finish.attempt.Logs log fun answer => Feeds (answer = .ok ())
  close : c.close.Logs log fun _ new => new = []

theorem PageChain.Forwards.receive {c : PageChain σ} (h : c.Forwards log) (feed : Feed α) :
    (c.receive feed).Logs log fun _ new => Hands new := by
  induction feed with
  | done a => exact (SureCall.Logs.pure a).mono fun _ new h => h.2 ▸ Hands.nil
  | step change next ih => exact fun s w => ih w s (change w)
  | ask page next ih =>
    refine (SureCall.Logs.bind (h.add page) ih).mono ?_
    rintro _ _ ⟨_, first, second, rfl, hands, hands'⟩
    exact hands.append hands'

/-- Whatever the stage lies in front of, it forwards what that forwards. -/
def FilterStage.Forwards (stage : FilterStage) : Prop :=
  ∀ {σ D : Type} {c : PageChain σ} {log : σ → List (OutputCall D)}, c.Forwards log →
    (stage.wrap c).Forwards fun t => log t.2

/-- A chain on a part of a larger state. -/
theorem PageChain.Forwards.zoom {c : PageChain σ} (h : c.Forwards log) (get : τ → σ)
    (set : σ → τ → τ) (same : ∀ s t, get (set s t) = s) :
    PageChain.Forwards ⟨fun page => (c.add page).zoom get set, c.finish.zoom get set,
      SureCall.zoom get set c.close⟩ fun t => log (get t) :=
  ⟨fun page => Call.logs_zoom same (h.add page), Call.logs_zoom same h.finish,
    h.close.zoom same⟩

theorem FilterStage.passing_forwards : passing.Forwards :=
  fun h => h.zoom Prod.snd (fun s t => (t.1, s)) fun _ _ => rfl

theorem FilterStage.Forwards.followedBy {first second : FilterStage} (h : first.Forwards)
    (h' : second.Forwards) : (first.followedBy second).Forwards :=
  fun {σ _ _ _} hc => (h (h' hc)).zoom
    (fun t : (first.State × second.State) × σ => (t.1.1, t.1.2, t.2))
    (fun s _ => ((s.1, s.2.1), s.2.2)) fun _ _ => rfl

end Chains

section Sinks

/-- The sink keeps a log: opening it and each page hand over data, and the other calls are what they
are. -/
structure PageSink.Records (k : PageSink σ) (log : σ → List (OutputCall D)) : Prop where
  start : k.start.attempt.Logs log fun _ new => Hands new
  add : ∀ page, (k.add page).attempt.Logs log fun _ new => Hands new
  finish : k.finish.attempt.Logs log fun answer => Feeds (answer = .ok ())
  commit : k.commit.attempt.Logs log fun answer new => new = [.commit answer]
  abort : k.abort.Logs log fun _ new => new = [.abort]
  close : k.close.Logs log fun _ new => new = [.close]

theorem PageSink.Records.asChain {k : PageSink σ} {log : σ → List (OutputCall D)}
    (h : k.Records log) : k.asChain.Forwards log :=
  ⟨h.add, h.finish, (SureCall.Logs.pure ()).mono fun _ _ h => h.2⟩

theorem OutputCall.feeds_finish (answer : Attempt Unit) :
    Feeds (answer = .ok ()) [(.finish answer : OutputCall D)] :=
  ⟨[], [.finish answer], rfl, Hands.nil, .inr ⟨answer, rfl⟩, fun h => by rw [h]⟩

theorem OutputCall.hands_one (data : D) : Hands [(.hand data : OutputCall D)] := by
  intro call hm
  exact ⟨data, List.mem_singleton.mp hm⟩

/-- The sink with a list of the calls since it was opened. -/
def PageSink.watched (k : PageSink σ) : PageSink (σ × List (OutputCall PageCall)) where
  start := k.start.zoom Prod.fst fun s t => (s, t.2)
  add page := ExceptT.mk (SureCall.noted (fun answer => .hand ⟨page, answer⟩) (k.add page).attempt)
  finish := ExceptT.mk (SureCall.noted .finish k.finish.attempt)
  commit := ExceptT.mk (SureCall.noted .commit k.commit.attempt)
  abort := SureCall.noted (fun _ => .abort) k.abort
  close := SureCall.noted (fun _ => .close) k.close

def PageOutput.watched (o : PageOutput) : PageOutput :=
  ⟨o.State × List (OutputCall PageCall), o.sink.watched, (o.initial, [])⟩

theorem PageSink.watched_start (k : PageSink σ) :
    k.watched.start.attempt.Logs Prod.snd fun _ new => new = [] := by
  intro t w
  have runs : (k.watched.start.attempt t).run w =
      ((((k.start.attempt t.1).run w).1.1, ((k.start.attempt t.1).run w).1.2, t.2),
        ((k.start.attempt t.1).run w).2) := Program.run_andThen _ _ _
  rw [runs]
  exact ⟨[], (List.append_nil t.2).symm, rfl⟩

theorem PageSink.watched_records (k : PageSink σ) : k.watched.Records Prod.snd where
  start := k.watched_start.mono fun _ _ h => h ▸ Hands.nil
  add page := (SureCall.noted_logs (fun answer => OutputCall.hand (PageCall.mk page answer)) (k.add page).attempt).mono
    fun _ _ h => h ▸ OutputCall.hands_one _
  finish := (SureCall.noted_logs OutputCall.finish k.finish.attempt).mono
    fun answer _ h => h ▸ OutputCall.feeds_finish answer
  commit := SureCall.noted_logs OutputCall.commit k.commit.attempt
  abort := SureCall.noted_logs (fun _ => OutputCall.abort) k.abort
  close := SureCall.noted_logs (fun _ => OutputCall.close) k.close

/-- The calls that a watched output has seen. -/
def PageOutput.log (o : PageOutput) : o.watched.State → List (OutputCall PageCall) := Prod.snd

theorem PageOutput.log_records (o : PageOutput) : o.watched.sink.Records o.log :=
  o.sink.watched_records

end Sinks

end BulkTransfer
