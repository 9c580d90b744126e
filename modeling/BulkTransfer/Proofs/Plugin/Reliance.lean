import BulkTransfer.Plugin.FileBased
import BulkTransfer.Proofs.World.Region
/-!
# Transactions and their controls

What driving a transaction comes to, whatever its plugin does around its control. Some transactions
succeed only through their control: those of a file-based input do, since a chain of decoders and a parser
that has not run its tasks is an error, and so does any nest of such transactions.
-/
namespace BulkTransfer

namespace Program

variable {α : Type} {P S : α → Prop} {p : Action α}

theorem Always.run (h : p.Always P) (w : World) : P (p.run w).1 := by
  induction p generalizing w with
  | done a => exact h
  | step change next ih => exact ih w (h w) (change w)
  | ask q next _ => exact nomatch q

theorem Always.mono (h : p.Always P) (weaker : ∀ a, P a → S a) : p.Always S := by
  induction p with
  | done a => exact weaker a h
  | step change next ih => exact fun w => ih w (h w)
  | ask q next _ => exact nomatch q

end Program

namespace Transaction

variable {Q R Q' R' α σ : Type}

/-- Driven, a transaction runs until it finishes or calls its control, and then goes on with what that has
answered. -/
theorem run_drive (t : Transaction Q R α) (control : Q → StateT σ Action (Attempt R)) (s : σ)
    (w : World) : (t.drive control s).run w =
      match t.run w with
      | (.finished a, w) => ((a, s), w)
      | (.called q resume, w) =>
        let ((r, s), w) := (control q s).run w
        let (a, w) := (resume r).run w
        ((a, s), w) := by
  change (Program.andThen (Program.andThen t fun event => .done (event, s)) _).run w = _
  rw [Program.run_andThen, Program.run_andThen]
  obtain ⟨event, w'⟩ := t.run w
  cases event with
  | finished a => rfl
  | called q resume =>
    change (Program.andThen (control q s) fun answer =>
      Program.andThen (resume answer.1) fun a => .done (a, answer.2)).run w' = _
    rw [Program.run_andThen, Program.run_andThen]
    rfl

/-- Whatever comes before, the control is asked for something like this. -/
def Asks (t : Transaction Q R α) (P : Q → Prop) : Prop :=
  t.Always fun
    | .finished _ => True
    | .called q _ => P q

/-- The transaction succeeds only if its control was asked and has succeeded, and its result fits to what
was asked and answered. -/
def Relies (t : Transaction Q R α) (S : Q → R → α → Prop) : Prop :=
  t.Always fun
    | .finished a => ∀ x, a ≠ .ok x
    | .called q resume => ∀ r, (resume r).Always fun a => ∀ x, a = .ok x → ∃ y, r = .ok y ∧ S q y x

/-- Whenever its control has failed, the transaction fails too. -/
def IsHonest (t : Transaction Q R α) : Prop :=
  ∀ w q resume, (t.run w).1 = .called q resume →
    ∀ e w', ∃ e', ((resume (.error e)).run w').1 = .error e'

/-- The transaction fails when its control has, whatever comes between its steps. -/
def Passes (t : Transaction Q R α) : Prop :=
  t.Always fun
    | .finished _ => True
    | .called _ resume => ∀ e, (resume (.error e)).Always fun a => ∃ e', a = .error e'

section Honesty

theorem Passes.honest {t : Transaction Q R α} (h : t.Passes) : t.IsHonest := by
  intro w q resume called e w'
  have passes := h.run w
  rw [called] at passes
  exact (passes e).run w'

theorem Passes.finish (a : Attempt α) : (finish a : Transaction Q R α).Passes := trivial

theorem Passes.callThen (q : Q) (resume : R → Action (Attempt α)) : (callThen q resume).Passes :=
  fun e => ⟨e, rfl⟩

theorem Passes.call_done (q : Q) : (call q .done : Transaction Q R R).Passes := fun e => ⟨e, rfl⟩

/-- What comes before the transaction does not matter. -/
theorem Passes.behind {β : Type} (p : Action β) {f : β → Transaction Q R α} (h : ∀ b, (f b).Passes) :
    Transaction.Passes (Program.andThen p f) :=
  Program.always_andThen p h

theorem Passes.nest {outer : Transaction Q R α} {inner : Q → Transaction Q' R' R} (h : outer.Passes)
    (hi : ∀ q, (inner q).Passes) : (outer.nest inner).Passes := by
  refine h.andThen fun event through => ?_
  cases event with
  | finished a => trivial
  | called q resume =>
    refine (hi q).andThen fun event within => ?_
    cases event with
    | finished r => exact Program.always_andThen _ fun _ => trivial
    | called q' resume' =>
      refine fun e => (within e).andThen ?_
      rintro _ ⟨e', rfl⟩
      exact through e'

/-- A chain of stages that was answered with a failure is an error, whatever the stages make of it. -/
theorem Passes.collecting (t : Transaction Q Unit Unit) (notRun : PluginError) :
    (t.collecting notRun : Transaction Q R R).Passes := by
  refine Program.always_andThen t fun event => ?_
  cases event with
  | finished result => trivial
  | called q resume =>
    refine fun e => Program.always_andThen _ fun result => ?_
    cases result with
    | error e' => exact ⟨e', rfl⟩
    | ok _ => exact ⟨notRun, rfl⟩

end Honesty

section Asking

variable {P : Q' → Prop}

theorem Asks.call {q : Q} {P : Q → Prop} {resume : Attempt R → Action (Attempt α)} (h : P q) :
    (call q resume).Asks P := h

/-- What is asked for in the end is what the innermost transaction asks for. -/
theorem Asks.nest (outer : Transaction Q R α) {inner : Q → Transaction Q' R' R}
    (h : ∀ q, (inner q).Asks P) : (outer.nest inner).Asks P := by
  refine Program.always_andThen outer fun event => ?_
  cases event with
  | finished a => trivial
  | called q resume =>
    refine (h q).andThen fun event asked => ?_
    cases event with
    | finished r => exact Program.always_andThen _ fun _ => trivial
    | called q' resume' => exact asked

universe u in
theorem Asks.nestStages {K : Type u} {transaction : K → Config → Transaction Task Unit Unit}
    {inmost : List Task → Transaction Q' Unit Unit} (h : ∀ tasks, (inmost tasks).Asks P)
    (stages : List (K × Config)) (tasks : List Task) :
    (nestStages transaction inmost stages tasks).Asks P := by
  induction stages generalizing tasks with
  | nil => exact h tasks
  | cons stage rest ih => exact .nest _ fun task => ih (tasks ++ [task])

end Asking

section Relying

variable {S : Q → R → α → Prop}

theorem Relies.finish (e : PluginError) : (finish (.error e) : Transaction Q R α).Relies S :=
  fun _ same => by cases same

theorem Relies.callThen {q : Q} {f : R → α} (h : ∀ r, S q r (f r)) :
    (callThen q fun r => .done (.ok (f r))).Relies S := by
  intro r
  cases r with
  | error e => exact fun _ same => by cases same
  | ok y =>
    intro x same
    cases same
    exact ⟨y, rfl, h y⟩

theorem Relies.nest {outer : Transaction Q R α} {inner : Q → Transaction Q' R' R}
    {S' : Q → Q' → R' → R → Prop} (h : outer.Relies S) (hi : ∀ q, (inner q).Relies (S' q)) :
    (outer.nest inner).Relies fun q' r' x => ∃ q r, S q r x ∧ S' q q' r' r := by
  refine h.andThen fun event through => ?_
  cases event with
  | finished a => exact through
  | called q resume =>
    refine (hi q).andThen fun event within => ?_
    cases event with
    | finished r =>
      refine (through r).andThen fun a given => ?_
      intro x same
      obtain ⟨y, answered, -⟩ := given x same
      exact within y answered
    | called q' resume' =>
      intro r'
      refine (within r').andThen fun r given => (through r).mono fun a goes x same => ?_
      obtain ⟨y, answered, fits⟩ := goes x same
      obtain ⟨y', asked, fits'⟩ := given y answered
      exact ⟨y', asked, q, y, fits, fits'⟩

/-- A chain of stages that has not been answered well is an error. -/
theorem Relies.collecting {P : Q → Prop} {t : Transaction Q Unit Unit} (h : t.Asks P)
    (notRun : PluginError) :
    (t.collecting notRun : Transaction Q R R).Relies fun q r x => P q ∧ x = r := by
  refine h.andThen fun event asked => ?_
  cases event with
  | finished result =>
    intro x same
    cases result <;> cases same
  | called q resume =>
    intro answer
    refine Program.always_andThen _ fun result x same => ?_
    cases result with
    | error e => cases same
    | ok _ =>
      cases answer with
      | error e => cases same
      | ok y =>
        cases same
        exact ⟨_, rfl, asked, rfl⟩

/-- A transaction that was driven to success has asked its control, and that has succeeded. -/
theorem Relies.drive {t : Transaction Q R α} (h : t.Relies S)
    {control : Q → StateT σ Action (Attempt R)} {s s' : σ} {w w' : World} {x : α}
    (done : (t.drive control s).run w = ((.ok x, s'), w')) :
    ∃ q before y after, (control q s).run before = ((.ok y, s'), after) ∧ S q y x := by
  have through := h.run w
  rw [run_drive] at done
  generalize t.run w = ran at done through
  obtain ⟨event, before⟩ := ran
  cases event with
  | finished a =>
    cases done
    exact absurd rfl (through x)
  | called q resume =>
    dsimp only at done through
    generalize answered : (control q s).run before = answer at done
    obtain ⟨⟨r, s''⟩, after⟩ := answer
    have goes := (through r).run after
    simp only [Prod.mk.injEq] at done
    obtain ⟨⟨result, rfl⟩, -⟩ := done
    obtain ⟨y, rfl, fits⟩ := goes x result
    exact ⟨q, before, y, after, answered, fits⟩

end Relying

end Transaction

/-- A file-based input succeeds only through its control, which is asked for the tasks of its file input,
frozen with those of its other parts. -/
theorem FileBasedInput.around_relies (i : FileBasedInput) (decoderConfigs : List Config)
    (parserConfig : Config) {outer : Transaction FileInputRequest (List Report) Report}
    {S : FileInputRequest → List Report → Report → Prop} (h : outer.Relies S) :
    (i.around decoderConfigs parserConfig outer).Relies fun q reports diff =>
      ∃ request, S request reports diff ∧ q.taskCount = request.taskCount ∧
        ∃ t : FileBasedInputTask, q.task = t.toTask ∧ t.fileInputTask = request.task := by
  have asks : ∀ request : FileInputRequest, (nestStages DecoderPlugin.transaction (fun decoderTasks =>
      (i.parser.transaction parserConfig).nest fun parsed =>
        Transaction.call ⟨(FileBasedInputTask.mk decoderConfigs parserConfig request.task decoderTasks
          parsed.task).toTask, parsed.schema, request.taskCount⟩ .done)
      (i.decoders.zip decoderConfigs) []).Asks fun q : InputRequest => q.taskCount = request.taskCount ∧
        ∃ t : FileBasedInputTask, q.task = t.toTask ∧ t.fileInputTask = request.task :=
    fun request => .nestStages (fun tasks => .nest _ fun parsed => .call ⟨rfl, _, rfl, rfl⟩) _ _
  refine (Transaction.Relies.nest h fun request => .collecting (asks request) notRun).mono ?_
  intro event through
  cases event with
  | finished a => exact through
  | called q resume =>
    refine fun r => (through r).mono fun a goes x same => ?_
    obtain ⟨y, answered, request, _, fits, ⟨count, frozen⟩, rfl⟩ := goes x same
    exact ⟨_, answered, request, fits, count, frozen⟩

end BulkTransfer
