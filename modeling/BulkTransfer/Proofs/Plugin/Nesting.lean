import BulkTransfer.Plugin.FileBased
import BulkTransfer.Proofs.World.Region
/-!
# Stages inside each other

The transactions of filters, of decoders and of encoders are begun in the order of the config, each inside
the one before. What comes behind them is begun when all of them have called their controls.
-/
namespace BulkTransfer

namespace Transaction

variable {Q R Q' R' α : Type} {w w' : World}

/-- In this world the transaction calls its control for this, and has come to that world then. -/
def Calls (t : Transaction Q R α) (w : World) (q : Q) (w' : World) : Prop :=
  ∃ resume, t.run w = (.called q resume, w')

theorem call_calls {q q' : Q} {resume : Attempt R → Action (Attempt α)} :
    (call q resume : Transaction Q R α).Calls w q' w' ↔ q' = q ∧ w' = w := by
  constructor
  · rintro ⟨_, ⟨⟩⟩
    exact ⟨rfl, rfl⟩
  · rintro ⟨rfl, rfl⟩
    exact ⟨resume, rfl⟩

/-- A transaction inside another one is begun when the outer one calls its control. -/
theorem nest_calls {outer : Transaction Q R α} {inner : Q → Transaction Q' R' R} {q' : Q'} :
    (outer.nest inner).Calls w q' w' ↔ ∃ q w₁, outer.Calls w q w₁ ∧ (inner q).Calls w₁ q' w' := by
  unfold Calls
  rw [nest, Program.run_andThen]
  cases outer.run w with
  | mk event w₁ =>
    cases event with
    | finished a => simp [finish]
    | called q resume =>
      dsimp only
      rw [Program.run_andThen]
      constructor
      · rintro ⟨resume', ran⟩
        refine ⟨q, w₁, ⟨resume, rfl⟩, ?_⟩
        cases inside : (inner q).run w₁ with
        | mk event w₂ =>
          rw [inside] at ran
          cases event with
          -- What the outer transaction does when the inner one has ended by itself is no call.
          | finished r =>
            dsimp only at ran
            rw [Program.run_andThen] at ran
            cases ran
          | called q'' resume'' =>
            cases ran
            exact ⟨resume'', rfl⟩
      · rintro ⟨_, _, ⟨_, ⟨⟩⟩, resume'', inside⟩
        rw [inside]
        exact ⟨_, rfl⟩

theorem collecting_calls {t : Transaction Q Unit Unit} {notRun : PluginError} {q : Q} :
    (t.collecting notRun : Transaction Q R R).Calls w q w' ↔ t.Calls w q w' := by
  unfold Calls
  rw [collecting, Program.run_andThen]
  cases t.run w with
  | mk event w₁ =>
    cases event with
    | finished a => simp [finish]
    | called q' resume =>
      constructor
      · rintro ⟨_, ⟨⟩⟩
        exact ⟨resume, rfl⟩
      · rintro ⟨_, ⟨⟩⟩
        exact ⟨_, rfl⟩

end Transaction

universe u

section InTurn

variable {S : Type u} {Q σ : Type} {begun : S → σ → Transaction Q Unit Unit} {handed : Q → σ}

/-- What stages ask for when they are begun in turn, each inside the one before and given what this one
hands on, until all have asked or one gives up: then it is left, with those behind it. -/
inductive InTurn (begun : S → σ → Transaction Q Unit Unit) (handed : Q → σ) :
    List S → σ → World → List Q → List S → World → Prop where
  | all (given : σ) (w : World) : InTurn begun handed [] given w [] [] w
  | stops {stage : S} {rest : List S} {given : σ} {w w' : World} {a : Attempt Unit}
      (ran : (begun stage given).run w = (.finished a, w')) :
      InTurn begun handed (stage :: rest) given w [] (stage :: rest) w'
  | goesOn {stage : S} {rest left : List S} {given : σ} {w w' w'' : World} {q : Q} {asked : List Q}
      (calls : (begun stage given).Calls w q w')
      (behind : InTurn begun handed rest (handed q) w' asked left w'') :
      InTurn begun handed (stage :: rest) given w (q :: asked) left w''

namespace InTurn

variable {stages left : List S} {given : σ} {asked : List Q} {w w' : World}

theorem length (h : InTurn begun handed stages given w asked left w') :
    asked.length + left.length = stages.length := by
  induction h with
  | all => rfl
  | stops => simp
  | goesOn _ _ ih => rw [List.length_cons, List.length_cons, ← ih]; omega

/-- Each stage was given what those before it have handed on. -/
theorem given_at (h : InTurn begun handed stages given w asked left w') {i : Nat} {stage : S} {q : Q}
    (there : stages[i]? = some stage) (asks : asked[i]? = some q) :
    ∃ v v', (begun stage ((asked.take i).foldl (fun _ q => handed q) given)).Calls v q v' := by
  induction h generalizing i with
  | all => simp at asks
  | stops => simp at asks
  | @goesOn stage' rest left given w w' w'' q' asked calls _ ih =>
    cases i with
    | zero =>
      cases there
      cases asks
      exact ⟨w, w', calls⟩
    | succ i => exact ih there asks

end InTurn

end InTurn

section Stages

variable {P : Type u} {Q : Type} {w w' : World}

/-- Stages freeze these tasks, each begun with its own config inside the one before. -/
abbrev Freeze (transaction : P → Config → Transaction Task Unit Unit) (stages : List (P × Config))
    (w : World) (tasks : List Task) (left : List (P × Config)) (w' : World) : Prop :=
  InTurn (fun stage () => transaction stage.1 stage.2) (fun _ => ()) stages () w tasks left w'

/-- What comes behind the stages is begun when each of them has called its control, with all of their
tasks. -/
theorem nestStages_calls {transaction : P → Config → Transaction Task Unit Unit}
    {inmost : List Task → Transaction Q Unit Unit} {stages : List (P × Config)} {tasks : List Task} {q : Q} :
    (nestStages transaction inmost stages tasks).Calls w q w' ↔
      ∃ frozen w₁, Freeze transaction stages w frozen [] w₁ ∧ (inmost (tasks ++ frozen)).Calls w₁ q w' := by
  induction stages generalizing tasks w with
  | nil =>
    constructor
    · intro calls
      exact ⟨[], w, .all () w, by rwa [List.append_nil]⟩
    · rintro ⟨_, _, ⟨⟩, calls⟩
      rwa [List.append_nil] at calls
  | cons stage rest ih =>
    rw [nestStages, Transaction.nest_calls]
    constructor
    · rintro ⟨task, w₁, first, behind⟩
      obtain ⟨frozen, w₂, rest, calls⟩ := ih.mp behind
      exact ⟨task :: frozen, w₂, .goesOn first rest, by simpa using calls⟩
    · rintro ⟨_, w₂, frozen, calls⟩
      cases frozen with
      | @goesOn _ _ _ _ _ w₁ _ task frozen first rest =>
        exact ⟨task, w₁, first, ih.mpr ⟨frozen, w₂, rest, by simpa using calls⟩⟩

/-- The list of tasks is complete, and each plugin has asked for the task at its place, in its transaction
with the config at its place. -/
structure OwnTasks (transaction : P → Config → Transaction Task Unit Unit) (plugins : List P)
    (configs : List Config) (tasks : List Task) : Prop where
  complete : tasks.length = plugins.length
  asked : ∀ {i : Nat} {plugin : P} {config : Config} {task : Task}, plugins[i]? = some plugin →
    configs[i]? = some config → tasks[i]? = some task → ∃ v v', (transaction plugin config).Calls v task v'

theorem Freeze.ownTasks {transaction : P → Config → Transaction Task Unit Unit} {plugins : List P}
    {configs : List Config} {tasks : List Task}
    (frozen : Freeze transaction (plugins.zip configs) w tasks [] w')
    (paired : configs.length = plugins.length) : OwnTasks transaction plugins configs tasks where
  complete := by simpa [paired] using frozen.length
  asked := by
    intro i plugin config task first second third
    have there : (plugins.zip configs)[i]? = some (plugin, config) :=
      List.getElem?_zip_eq_some.mpr ⟨first, second⟩
    exact frozen.given_at there third

end Stages

end BulkTransfer
