import Provision.Provider

/-!
What an attempt comes to on a connection. The connection may answer anything; an attempt is played
against it after statements that were sent before. Statements that are performed one after the
other stop at the first that is refused or fails.
-/

namespace Provision

variable {ε α β : Type}

theorem bind_eq_ok_iff {step : Except ε α} {next : α → Except ε β} {result : β} :
    (step >>= next) = .ok result ↔ ∃ value, step = .ok value ∧ next value = .ok result := by
  cases step with
  | error error => simp [bind, Except.bind]
  | ok value => simp [bind, Except.bind]

theorem bind_eq_error_iff {step : Except ε α} {next : α → Except ε β} {error : ε} :
    (step >>= next) = .error error ↔
      step = .error error ∨ ∃ value, step = .ok value ∧ next value = .error error := by
  cases step with
  | error error => simp [bind, Except.bind]
  | ok value => simp [bind, Except.bind]

theorem map_eq_ok_iff {step : Except ε α} {convert : α → β} {result : β} :
    convert <$> step = .ok result ↔ ∃ value, step = .ok value ∧ convert value = result := by
  cases step with
  | error error => simp [Functor.map, Except.map]
  | ok value => simp [Functor.map, Except.map]

theorem exists_map_eq_ok_iff {step : Except ε α} {convert : α → β} :
    (∃ result, convert <$> step = .ok result) ↔ ∃ value, step = .ok value := by
  constructor
  · rintro ⟨result, converted⟩
    obtain ⟨value, stepped, -⟩ := map_eq_ok_iff.mp converted
    exact ⟨value, stepped⟩
  · rintro ⟨value, stepped⟩
    exact ⟨convert value, map_eq_ok_iff.mpr ⟨value, stepped, rfl⟩⟩

theorem mapError_ok (convert : ε → β) (value : α) :
    (Except.ok value).mapError convert = .ok value := rfl

theorem mapError_error (convert : ε → β) (error : ε) :
    (Except.error error : Except ε α).mapError convert = .error (convert error) := rfl

theorem mapError_eq_ok_iff {step : Except ε α} {convert : ε → β} {result : α} :
    step.mapError convert = .ok result ↔ step = .ok result := by
  cases step with
  | error error => simp [mapError_error]
  | ok value => simp [mapError_ok]

theorem mapError_eq_error_iff {step : Except ε α} {convert : ε → β} {error : β} :
    step.mapError convert = .error error ↔
      ∃ original, step = .error original ∧ convert original = error := by
  cases step with
  | error original => simp [mapError_error]
  | ok value => simp [mapError_ok]

theorem Script.run_bind (connection : Connection) (before : List Statement) (script : Script α)
    (next : α → Script β) :
    (script >>= next).run connection before =
      (next (script.run connection before).1).run connection (script.run connection before).2 := by
  show (script.andThen next).run connection before = _
  induction script generalizing before with
  | done result => rfl
  | send statement rest ih => exact ih _ _

namespace Attempt

/-- The result, and all statements that were sent, after those sent before. -/
def play (connection : Connection) (before : List Statement) (attempt : Attempt ε α) :
    Except ε α × List Statement :=
  Script.run connection before attempt.run

variable (connection : Connection) (deadline? : Option Nat) (before : List Statement)

theorem play_pure (value : α) :
    play connection before (pure value : Attempt ε α) = (.ok value, before) := rfl

theorem play_done (result : Except ε α) :
    play connection before (ExceptT.mk (.done result)) = (result, before) := rfl

theorem play_bind (attempt : Attempt ε α) (next : α → Attempt ε β) :
    play connection before (attempt >>= next) =
      match play connection before attempt with
      | (.ok value, sent) => play connection sent (next value)
      | (.error error, sent) => (.error error, sent) := by
  simp only [play]
  rw [ExceptT.run_bind, Script.run_bind]
  cases Script.run connection before attempt.run with
  | mk result sent =>
      cases result with
      | ok value => rfl
      | error error => rfl

variable {connection before}

theorem play_bind_ok {attempt : Attempt ε α} {value : α} {sent : List Statement}
    (played : play connection before attempt = (.ok value, sent)) (next : α → Attempt ε β) :
    play connection before (attempt >>= next) = play connection sent (next value) := by
  rw [play_bind, played]

theorem play_bind_error {attempt : Attempt ε α} {error : ε} {sent : List Statement}
    (played : play connection before attempt = (.error error, sent)) (next : α → Attempt ε β) :
    play connection before (attempt >>= next) = (.error error, sent) := by
  rw [play_bind, played]

variable (connection before)

theorem play_map (convert : α → β) (attempt : Attempt ε α) :
    play connection before (convert <$> attempt) =
      (convert <$> (play connection before attempt).1, (play connection before attempt).2) := by
  rw [← bind_pure_comp, play_bind]
  cases play connection before attempt with
  | mk result sent =>
      cases result with
      | ok value => rfl
      | error error => rfl

def answer (statement : Statement) : Except Failure (List Row) :=
  settle deadline? statement (connection (before.map Statement.sql) statement.sql)

theorem answer_error {statement : Statement} {failure : Failure}
    (failed : answer connection deadline? before statement = .error failure) :
    (∃ source, failure = .execution statement.operation statement.target source) ∨
      ∃ seconds, failure = .timeout statement.operation seconds := by
  simp only [answer, settle] at failed
  generalize connection (before.map Statement.sql) statement.sql = reply at failed
  cases deadline? with
  | none =>
      cases outcome : reply.outcome with
      | ok rows => simp [outcome] at failed
      | error source =>
          simp only [outcome, Except.error.injEq] at failed
          exact .inl ⟨source, failed.symm⟩
  | some seconds =>
      by_cases late : reply.delay > seconds * 1000
      · simp only [late, if_true, Except.error.injEq] at failed
        exact .inr ⟨seconds, failed.symm⟩
      · cases outcome : reply.outcome with
        | ok rows => simp [late, outcome] at failed
        | error source =>
            simp only [late, if_false, outcome, Except.error.injEq] at failed
            exact .inl ⟨source, failed.symm⟩

theorem play_rows_accepted {statement : Statement} (accepted : statement.form.violations = []) :
    play connection before (rows deadline? statement) =
      (answer connection deadline? before statement, before ++ [statement]) := by
  simp only [play, rows, ExceptT.run_mk, accepted]
  rfl

theorem play_rows_refused {statement : Statement} (refused : statement.form.violations ≠ []) :
    play connection before (rows deadline? statement) =
      (.error (.refused statement.form.violations), before) := by
  cases violations : statement.form.violations with
  | nil => exact absurd violations refused
  | cons first rest =>
      simp only [play, rows, ExceptT.run_mk, violations]
      rfl

theorem play_execute (statement : Statement) :
    play connection before (execute deadline? statement) =
      ((fun _ => ()) <$> (play connection before (rows deadline? statement)).1,
        (play connection before (rows deadline? statement)).2) := by
  rw [← play_map]
  rfl

theorem play_bind_done (attempt : Attempt ε α) (decide : α → Except ε β) :
    play connection before (attempt >>= fun value => ExceptT.mk (.done (decide value))) =
      ((play connection before attempt).1 >>= decide, (play connection before attempt).2) := by
  rw [play_bind]
  cases play connection before attempt with
  | mk result sent =>
      cases result with
      | ok value => rfl
      | error error => rfl

theorem play_query (statement : Statement) (ofRow : Row → Conversion α) :
    play connection before (query deadline? statement ofRow) =
      ((play connection before (rows deadline? statement)).1 >>= fun rows =>
        converted (rows.mapM ofRow), (play connection before (rows deadline? statement)).2) :=
  play_bind_done connection before _ _

theorem play_adapt (convert : ε → β) (attempt : Attempt ε α) :
    play connection before (attempt.adapt convert) =
      ((play connection before attempt).1.mapError convert,
        (play connection before attempt).2) := by
  simp only [play, ExceptT.run_adapt]
  rw [← bind_pure_comp, Script.run_bind]
  rfl

/-- How statements go that are performed in order: what they come to, and all statements that were
sent. -/
inductive Performance :
    List Statement → List Statement → Except Failure Unit → List Statement → Prop
  | finished {sent} : Performance sent [] (.ok ()) sent
  | refused {before statement rest} : statement.form.violations ≠ [] →
      Performance before (statement :: rest) (.error (.refused statement.form.violations)) before
  | failed {before statement rest failure} : statement.form.violations = [] →
      answer connection deadline? before statement = .error failure →
      Performance before (statement :: rest) (.error failure) (before ++ [statement])
  | answered {before statement rest rows result sent} : statement.form.violations = [] →
      answer connection deadline? before statement = .ok rows →
      Performance (before ++ [statement]) rest result sent →
      Performance before (statement :: rest) result sent

section Performance

variable {connection deadline? before}

theorem answer_ne_refused {statement : Statement} {violations : List Statement.Violation} :
    answer connection deadline? before statement ≠ .error (.refused violations) := by
  intro refused
  rcases answer_error connection deadline? before refused with ⟨source, impossible⟩ |
    ⟨seconds, impossible⟩
  · simp at impossible
  · simp at impossible

theorem Performance.sent_eq {statements sent : List Statement} {result : Except Failure Unit}
    (performance : Performance connection deadline? before statements result sent) :
    ∃ done rest, statements = done ++ rest ∧ sent = before ++ done ∧
      (∀ statement ∈ done, statement.form.violations = []) ∧ (result = .ok () → rest = []) := by
  induction performance with
  | finished => exact ⟨[], [], by simp⟩
  | @refused _ statement rest _ => exact ⟨[], statement :: rest, by simp⟩
  | @failed before statement rest failure accepted _ =>
      exact ⟨[statement], rest, by simp [accepted]⟩
  | @answered before statement _ _ _ _ accepted _ _ ih =>
      obtain ⟨done, rest, split, sent, sound, complete⟩ := ih
      refine ⟨statement :: done, rest, by simp [split], by simp [sent], ?_, complete⟩
      intro later member
      rcases List.mem_cons.mp member with rfl | member
      · exact accepted
      · exact sound later member

theorem Performance.ne_refused {statements sent : List Statement} {result : Except Failure Unit}
    {violations : List Statement.Violation}
    (performance : Performance connection deadline? before statements result sent)
    (accepted : ∀ statement ∈ statements, statement.form.violations = []) :
    result ≠ .error (.refused violations) := by
  induction performance with
  | finished => simp
  | refused refused => exact absurd (accepted _ List.mem_cons_self) refused
  | failed _ failed =>
      intro same
      obtain rfl := Except.error.inj same
      exact answer_ne_refused failed
  | answered _ _ _ ih =>
      exact ih fun statement member => accepted statement (List.mem_cons_of_mem _ member)

theorem Performance.sent_of_accepted {statement : Statement} {sent : List Statement}
    {result : Except Failure Unit}
    (performance : Performance connection deadline? before [statement] result sent)
    (accepted : statement.form.violations = []) : sent = before ++ [statement] := by
  cases performance with
  | refused refused => exact absurd accepted refused
  | failed _ _ => rfl
  | answered _ _ rest =>
      cases rest with
      | finished => rfl

theorem Performance.answered_of_ok {statement : Statement} {sent : List Statement}
    (performance : Performance connection deadline? before [statement] (.ok ()) sent) :
    statement.form.violations = [] ∧
      ∃ rows, answer connection deadline? before statement = .ok rows := by
  cases performance with
  | answered accepted answered _ => exact ⟨accepted, _, answered⟩

/-- Statements that are accepted together are refused before the first of them is sent. -/
theorem Performance.sent_of_refused {statements sent : List Statement}
    {result : Except Failure Unit} {violations : List Statement.Violation} {condition : Prop}
    (performance : Performance connection deadline? before statements result sent)
    (together : ∀ statement ∈ statements, statement.form.violations = [] ↔ condition)
    (refused : result = .error (.refused violations)) : sent = before := by
  cases performance with
  | finished => rfl
  | refused => rfl
  | failed _ failed =>
      obtain rfl := Except.error.inj refused
      exact absurd failed answer_ne_refused
  | answered accepted _ performance =>
      -- The first was accepted, so the condition holds and none of the others can be refused.
      have met := (together _ List.mem_cons_self).mp accepted
      exact absurd refused (performance.ne_refused fun statement member =>
        (together statement (List.mem_cons_of_mem _ member)).mpr met)

theorem Performance.append {first rest middle sent : List Statement}
    {done result : Except Failure Unit}
    (performed : Performance connection deadline? before first done middle)
    (succeeded : done = .ok ())
    (continued : Performance connection deadline? middle rest result sent) :
    Performance connection deadline? before (first ++ rest) result sent := by
  induction performed with
  | finished => exact continued
  | refused => simp at succeeded
  | failed => simp at succeeded
  | answered accepted answered _ ih => exact .answered accepted answered (ih succeeded continued)

theorem Performance.append_error {first sent : List Statement} {result : Except Failure Unit}
    (stopped : Performance connection deadline? before first result sent)
    (failed : result ≠ .ok ()) (rest : List Statement) :
    Performance connection deadline? before (first ++ rest) result sent := by
  induction stopped with
  | finished => exact absurd rfl failed
  | refused refused => exact .refused refused
  | failed accepted unanswered => exact .failed accepted unanswered
  | answered accepted answered _ ih => exact .answered accepted answered (ih failed)

end Performance

/-- Each of the statements is answered when they are sent one after the other. -/
def AllAnswered : List Statement → List Statement → Prop
  | _, [] => True
  | before, statement :: rest =>
      (∃ rows, answer connection deadline? before statement = .ok rows) ∧
        AllAnswered (before ++ [statement]) rest

section AllAnswered

variable {connection deadline? before}

theorem Performance.allAnswered {statements sent : List Statement} {result : Except Failure Unit}
    (performance : Performance connection deadline? before statements result sent)
    {done : List Statement} (split : sent = before ++ done) :
    AllAnswered connection deadline? before done.dropLast ∧
      (result = .ok () → AllAnswered connection deadline? before done) := by
  induction performance generalizing done with
  | finished =>
      obtain rfl : done = [] := by simpa using split
      exact ⟨trivial, fun _ => trivial⟩
  | refused =>
      obtain rfl : done = [] := by simpa using split
      exact ⟨trivial, fun _ => trivial⟩
  | failed =>
      obtain rfl := List.append_cancel_left split
      exact ⟨trivial, by simp⟩
  | @answered before statement _ _ _ _ _ answered rest ih =>
      obtain ⟨later, -, -, sent, -⟩ := rest.sent_eq
      obtain rfl : done = statement :: later := by simpa [split] using sent
      obtain ⟨earlier, complete⟩ := ih sent
      refine ⟨?_, fun succeeded => ⟨⟨_, answered⟩, complete succeeded⟩⟩
      cases later with
      | nil => trivial
      | cons second others => exact ⟨⟨_, answered⟩, earlier⟩

theorem Performance.sent_of_allAnswered {statements sent : List Statement}
    {result : Except Failure Unit}
    (performance : Performance connection deadline? before statements result sent)
    (accepted : ∀ statement ∈ statements, statement.form.violations = [])
    (answered : AllAnswered connection deadline? before statements) :
    sent = before ++ statements := by
  induction performance with
  | finished => simp
  | refused refused => exact absurd (accepted _ List.mem_cons_self) refused
  | failed _ failed =>
      obtain ⟨⟨rows, replied⟩, -⟩ := answered
      simp [failed] at replied
  | answered _ _ _ ih =>
      rw [ih (fun statement member => accepted statement (List.mem_cons_of_mem _ member))
        answered.2]
      simp

end AllAnswered

end Attempt

namespace Operation

open Attempt

variable (connection : Connection) (before : List Statement)

theorem play_checked (id : ResourceId) (result : Except FaultCause α) :
    play connection before (checked id result) = (result.mapError (.about id), before) := by
  cases result with
  | ok value => rfl
  | error cause => rfl

variable {connection before} in
theorem play_checked_ok {id : ResourceId} {result : Except FaultCause α} {value : α}
    (passed : result = .ok value) :
    play connection before (checked id result) = (.ok value, before) := by
  rw [play_checked, passed]
  rfl

variable {connection before} in
theorem play_checked_error {id : ResourceId} {result : Except FaultCause α} {cause : FaultCause}
    (failed : result = .error cause) :
    play connection before (checked id result) = (.error (.about id cause), before) := by
  rw [play_checked, failed]
  rfl

theorem play_performed (action : Action) (id : ResourceId) (attempt : Attempt Failure α) :
    play connection before (performed action id attempt) =
      ((play connection before attempt).1.mapError fun failure =>
        .about id (.statement action id.resourceType failure),
        (play connection before attempt).2) :=
  play_adapt connection before _ attempt

def performAll (config : Config) (action : Action) (id : ResourceId) :
    List Statement → Attempt Fault Unit
  | [] => pure ()
  | statement :: rest => do
      performed action id (Attempt.execute config.statementTimeout? statement)
      performAll config action id rest

theorem play_performAll (config : Config) (action : Action) (id : ResourceId)
    (statements : List Statement) :
    ∃ result sent,
      Performance connection config.statementTimeout? before statements result sent ∧
      play connection before (performAll config action id statements) =
        (result.mapError fun failure => .about id (.statement action id.resourceType failure),
          sent) := by
  -- Each statement is sent after those before it, so what was sent before is general.
  induction statements generalizing before with
  | nil => exact ⟨.ok (), before, .finished, rfl⟩
  | cons statement rest ih =>
      have performing := play_performed connection before action id
        (Attempt.execute config.statementTimeout? statement)
      rw [play_execute] at performing
      by_cases accepted : statement.form.violations = []
      · rw [play_rows_accepted connection config.statementTimeout? before accepted] at performing
        cases answered : answer connection config.statementTimeout? before statement with
        | error failure =>
            rw [answered] at performing
            exact ⟨.error failure, _, .failed accepted answered, play_bind_error performing _⟩
        | ok rows =>
            rw [answered] at performing
            obtain ⟨result, sent, performance, played⟩ := ih (before ++ [statement])
            exact ⟨result, sent, .answered accepted answered performance,
              (play_bind_ok performing _).trans played⟩
      · rw [play_rows_refused connection config.statementTimeout? before accepted] at performing
        exact ⟨_, before, .refused accepted, play_bind_error performing _⟩

end Operation

end Provision
