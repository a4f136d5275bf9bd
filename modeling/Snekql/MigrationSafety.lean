import Snekql.MigrationMoves

/-!
# Rejection of foreign histories

`Mechanical` is what holds of concurrent runs over any database, whatever its
history: the runs between `BEGIN` and `COMMIT` own the transaction, and a run past
`_ensure_v2_history` works on what that made of the committed database. Hence a
database whose history is not a prefix of a run's declaration never sees a body of
that run, and the run can only give up.
-/

namespace Snekql.SqliteMigrations

open Snekql.Migrations

/-- The history is a prefix of the declaration. -/
def PrefixOf (plan : List Migration) : History → Prop
  | .absent => True
  | .legacy names => ∃ count, count ≤ plan.length ∧
      names.dedup.Perm ((plan.take count).map Migration.name)
  | .current rows => rows <+: plan.map Migration.historyRecord
  | .unknown => False

section Prefixes

variable {plan : List Migration}

/-- A history that survives both checks is a prefix of the declaration. -/
theorem prefixOf_of_valid (prepared : Prepared plan) {database working : Database}
    {adoptLegacy adopted : Bool}
    (ensured : ensureV2History database plan adoptLegacy = .ok (working, adopted))
    (valid : validateHistoryPrefix (fetchHistory working) plan false 0 = .ok ()) :
    PrefixOf plan database.history := by
  unfold ensureV2History at ensured
  split at ensured
  · next shape =>
    rw [shape]
    trivial
  · next rows shape =>
    cases ensured
    rw [validateHistoryPrefix_ok_iff prepared.numbered] at valid
    simp only [fetchHistory, shape] at valid
    rw [shape]
    exact valid
  · next names shape =>
    unfold upgradeLegacyHistory at ensured
    split at ensured
    · cases ensured
    · cases checked : validateLegacyHistory names plan with
      | error problem => simp [checked, bind, Except.bind] at ensured
      | ok length =>
        obtain ⟨-, short, same⟩ :=
          (validateLegacyHistory_ok_iff prepared.distinct length).mp checked
        rw [shape]
        exact ⟨length, short, same⟩
  · cases ensured

end Prefixes

variable {index : Nat} {run : Run}

section Mechanics

variable {chain : List Migration} {statements : Migration → List String} {state after : State}

/-- The runs that are inside a transaction. -/
def Phase.inside : Phase → Bool
  | .begun => true
  | .ensured => true
  | .applying _ _ => true
  | .committing _ => true
  | _ => false

/-- What a run inside a transaction may rely on, whatever the history is. -/
def Owns (state : State) (index : Nat) (run : Run) : Prop :=
  match run.phase with
  | .begun => state.transaction = some (index, state.committed)
  | .ensured => ∃ working adopted, state.transaction = some (index, working) ∧
      ensureV2History state.committed run.plan run.adoptLegacy = .ok (working, adopted)
  | .applying _ _ => ∃ working, state.transaction = some (index, working)
  | .committing _ => ∃ working, state.transaction = some (index, working)
  | _ => True

structure Mechanical (chain : List Migration) (state : State) : Prop where
  declared : ∀ (index : Nat) run, state.runs[index]? = some run → ∃ length,
    run.plan = chain.take length
  owns : ∀ (index : Nat) run, state.runs[index]? = some run → Owns state index run

theorem owns_of_outside (outside : run.phase.inside = false) : Owns state index run := by
  unfold Owns
  cases phase : run.phase <;> simp_all [Phase.inside]

theorem transaction_of_owns (inside : run.phase.inside = true) (owns : Owns state index run) :
    ∃ working, state.transaction = some (index, working) := by
  unfold Owns at owns
  cases phase : run.phase <;> simp_all [Phase.inside]
  obtain ⟨working, owned, -⟩ := owns
  exact ⟨working, owned⟩

/-- A run of another connection is outside any transaction. -/
theorem outside_of_other {other : Nat} (owns : Owns state other run) (apart : other ≠ index)
    (mine : state.transaction = none ∨ ∃ working, state.transaction = some (index, working)) :
    run.phase.inside = false := by
  cases inside : run.phase.inside with
  | false => rfl
  | true =>
    obtain ⟨working, owned⟩ := transaction_of_owns inside owns
    obtain free | ⟨copy, held⟩ := mine
    · simp [free] at owned
    · rw [held] at owned
      simp only [Option.some.injEq, Prod.mk.injEq] at owned
      exact absurd owned.1.symm apart

/-- Storing a run's successor changes no other run. -/
theorem stored_cases {runs : List Run} {other : Nat} {new found : Run}
    (present : (runs.set index new)[other]? = some found) :
    (index = other ∧ found = new) ∨ (other ≠ index ∧ runs[other]? = some found) := by
  rw [List.getElem?_set] at present
  split at present
  · next same =>
    split at present
    · exact Or.inl ⟨same, (Option.some.inj present).symm⟩
    · cases present
  · next apart => exact Or.inr ⟨Ne.symm apart, present⟩

/-- One run changes and at most its own transaction with it. -/
theorem mechanical_set (mechanical : Mechanical chain state) {new : Run}
    (current : state.runs[index]? = some run) (runs : after.runs = state.runs.set index new)
    (declared : new.plan = run.plan) (owns : Owns after index new)
    (others : (after.transaction = state.transaction ∧ after.committed = state.committed) ∨
      state.transaction = none ∨ ∃ working, state.transaction = some (index, working)) :
    Mechanical chain after := by
  constructor
  · intro other found present
    obtain ⟨rfl, rfl⟩ | ⟨_, present⟩ := stored_cases (runs ▸ present)
    · rw [declared]
      exact mechanical.declared index run current
    · exact mechanical.declared other found present
  · intro other found present
    obtain ⟨rfl, rfl⟩ | ⟨apart, present⟩ := stored_cases (runs ▸ present)
    · exact owns
    · have before := mechanical.owns other found present
      obtain ⟨transaction, committed⟩ | mine := others
      · unfold Owns at before ⊢
        rw [transaction, committed]
        exact before
      · exact owns_of_outside (outside_of_other before apart mine)

/-- What a run that has its history in the current shape has in its transaction. -/
theorem Mechanical.ensured {working : Database} (mechanical : Mechanical chain state)
    (current : state.runs[index]? = some run) (ensured : run.phase = .ensured)
    (owned : state.transaction = some (index, working)) :
    ∃ adopted, ensureV2History state.committed run.plan run.adoptLegacy =
      .ok (working, adopted) := by
  have owns := mechanical.owns index run current
  simp only [Owns, ensured] at owns
  obtain ⟨copy, adopted, held, made⟩ := owns
  rw [owned] at held
  have own : working = copy := by simpa using held
  exact ⟨adopted, own ▸ made⟩

/-- Dropping a run's transaction leaves the others' alone. -/
theorem dropTransaction_cases (state : State) (index : Nat) :
    ((state.dropTransaction index).committed = state.committed ∧
        (state.dropTransaction index).runs = state.runs ∧
        (state.dropTransaction index).started = state.started) ∧
      ((state.dropTransaction index).transaction = state.transaction ∨
        ∃ working, state.transaction = some (index, working)) := by
  unfold State.dropTransaction
  split
  · next owner working held =>
    split
    · next same =>
      subst same
      exact ⟨⟨rfl, rfl, rfl⟩, Or.inr ⟨working, held⟩⟩
    · exact ⟨⟨rfl, rfl, rfl⟩, Or.inl rfl⟩
  · exact ⟨⟨rfl, rfl, rfl⟩, Or.inl rfl⟩

theorem inside_of_ended {phase : Phase} (ended : phase.ended = true) : phase.inside = false := by
  cases phase <;> simp_all [Phase.ended, Phase.inside]

/-- A call that has just been made is the last one. -/
theorem getElem?_enter {runs : List Run} {fresh : Run}
    (found : (runs ++ [fresh])[index]? = some run) : runs[index]? = some run ∨ run = fresh := by
  rw [List.getElem?_append] at found
  split at found
  · exact Or.inl found
  · rw [List.getElem?_singleton] at found
    split at found
    · exact Or.inr (Option.some.inj found).symm
    · cases found

theorem Move.mechanical (move : Move chain statements state after)
    (mechanical : Mechanical chain state) : Mechanical chain after := by
  cases move with
  | enter length adoptLegacy =>
    constructor
    · intro index run found
      obtain before | rfl := getElem?_enter found
      · exact mechanical.declared index run before
      · exact ⟨length, rfl⟩
    · intro index run found
      obtain before | rfl := getElem?_enter found
      · exact mechanical.owns index run before
      · exact owns_of_outside rfl
  | beginImmediate phase current ready free next =>
    refine mechanical_set mechanical current rfl rfl ?_ (Or.inr (Or.inl free))
    obtain rfl | rfl := next
    · rfl
    · exact owns_of_outside rfl
  | @ensure index run working database adopted current begun owned ensured =>
    refine mechanical_set mechanical current rfl rfl ?_ (Or.inr (Or.inr ⟨working, owned⟩))
    have copy := mechanical.owns index run current
    simp only [Owns, begun] at copy
    rw [owned] at copy
    have same : working = state.committed := by simpa using copy
    exact ⟨database, adopted, rfl, same ▸ ensured⟩
  | complete current ensured owned valid whole | start current ensured owned valid pending =>
    exact mechanical_set mechanical current rfl rfl ⟨_, owned⟩ (Or.inl ⟨rfl, rfl⟩)
  | statement current applying owned | record current applying owned recorded =>
    exact mechanical_set mechanical current rfl rfl ⟨_, rfl⟩ (Or.inr (Or.inr ⟨_, owned⟩))
  | commit phase current committing owned next =>
    refine mechanical_set mechanical current rfl rfl (owns_of_outside ?_)
      (Or.inr (Or.inr ⟨_, owned⟩))
    obtain rfl | rfl := next <;> rfl
  | @proceed index run migration current settled =>
    cases migration with
    | none | some => exact mechanical_set mechanical current rfl rfl trivial (Or.inl ⟨rfl, rfl⟩)
  | giveUp phase current unfinished next =>
    exact mechanical_set mechanical current rfl rfl (owns_of_outside (inside_of_ended next))
      (Or.inl ⟨rfl, rfl⟩)
  | @abandon index run phase current unfinished next =>
    obtain ⟨⟨committed, runs, -⟩, taken⟩ := dropTransaction_cases state index
    have stored : ((state.dropTransaction index).setRun index { run with phase := phase }).runs =
        state.runs.set index { run with phase := phase } :=
      congrArg (fun runs => runs.set index { run with phase := phase }) runs
    apply mechanical_set mechanical current stored rfl (owns_of_outside (inside_of_ended next))
    obtain kept | held := taken
    · exact Or.inl ⟨kept, committed⟩
    · exact Or.inr (Or.inr held)

theorem initial_mechanical (database : Database) : Mechanical chain (initial database) := by
  constructor <;> simp [initial]

end Mechanics

section Rejection

variable {chain : List Migration} {statements : Migration → List String} {state after : State}

/-- A body is started only over a history that is a prefix of the declaration. -/
theorem Move.started (prepared : Prepared chain) (move : Move chain statements state after)
    (mechanical : Mechanical chain state) {name : String}
    (grown : after.started = state.started ++ [(index, name)]) :
    ∃ run, state.runs[index]? = some run ∧ PrefixOf run.plan state.committed.history := by
  have idle : state.started ≠ state.started ++ [(index, name)] := by simp
  cases move with
  | @start owner run working migration current ensured owned valid pending =>
    have same : owner = index := by
      have last : (owner, migration.name) = (index, name) := by simpa using grown
      exact congrArg Prod.fst last
    subst same
    refine ⟨run, current, ?_⟩
    obtain ⟨length, plan⟩ := mechanical.declared owner run current
    obtain ⟨_, made⟩ := mechanical.ensured current ensured owned
    exact prefixOf_of_valid (plan ▸ prepared.take length) made valid
  | @abandon owner run phase current unfinished next =>
    have kept := (dropTransaction_cases state owner).1.2.2
    exact absurd (kept.symm.trans grown) idle
  | proceed | _ => exact absurd grown idle

/-- A move starts at most one body. -/
theorem Move.started_cases (move : Move chain statements state after) :
    after.started = state.started ∨
      ∃ index name, after.started = state.started ++ [(index, name)] := by
  cases move with
  | start current ensured owned valid pending => exact Or.inr ⟨_, _, rfl⟩
  | @abandon index => exact Or.inl (dropTransaction_cases state index).1.2.2
  | _ => exact Or.inl rfl

/-- Over any other history a run that has begun can only give up. -/
theorem Move.rejected (prepared : Prepared chain) (move : Move chain statements state after)
    (mechanical : Mechanical chain state) {new : Run} (current : state.runs[index]? = some run)
    (holding : run.phase = .begun ∨ run.phase = .ensured)
    (foreign : ¬ PrefixOf run.plan state.committed.history) (result : after.runs[index]? = some new)
    :
    new.phase = run.phase ∨ new.phase = .ensured ∨ new.phase.ended = true := by
  have refused : ∀ {working : Database}, run.phase = .ensured →
      state.transaction = some (index, working) →
      validateHistoryPrefix (fetchHistory working) run.plan false 0 ≠ .ok () := by
    intro working ensured owned valid
    obtain ⟨length, plan⟩ := mechanical.declared index run current
    obtain ⟨_, made⟩ := mechanical.ensured current ensured owned
    exact foreign (prefixOf_of_valid (plan ▸ prepared.take length) made valid)
  -- The move is the run's own, or leaves it as it was.
  have stored {owner : Nat} {started next : Run} (found : state.runs[owner]? = some started)
      (result : (state.runs.set owner next)[index]? = some new)
      (own : owner = index → started = run →
        next.phase = run.phase ∨ next.phase = .ensured ∨ next.phase.ended = true) :
      new.phase = run.phase ∨ new.phase = .ensured ∨ new.phase.ended = true := by
    obtain ⟨rfl, rfl⟩ | ⟨_, present⟩ := stored_cases result
    · exact own rfl (Option.some.inj (found.symm.trans current))
    · exact Or.inl (congrArg Run.phase (Option.some.inj (present.symm.trans current)))
  cases move with
  | enter length adoptLegacy =>
    have inside : index < state.runs.length := (List.getElem?_eq_some_iff.mp current).1
    rw [List.getElem?_append_left inside] at result
    exact Or.inl (congrArg Run.phase (Option.some.inj (result.symm.trans current)))
  | beginImmediate phase found ready free next =>
    exact stored found result (fun _ same => by simp [← same, ready] at holding)
  | ensure found begun owned ensured => exact stored found result (fun _ _ => .inr (.inl rfl))
  | complete found ensured owned valid whole | start found ensured owned valid pending =>
    refine stored found result ?_
    rintro rfl rfl
    exact absurd valid (refused ensured owned)
  | statement found applying owned | record found applying owned recorded =>
    exact stored found result (fun _ same => by simp [← same, applying] at holding)
  | commit phase found committing owned next =>
    exact stored found result (fun _ same => by simp [← same, committing] at holding)
  | proceed found settled =>
    exact stored found result (fun _ same => by simp [← same, settled] at holding)
  | giveUp phase found unfinished next => exact stored found result (fun _ _ => .inr (.inr next))
  | @abandon owner started phase found unfinished next =>
    change ((state.dropTransaction owner).runs.set owner _)[index]? = some new at result
    rw [(dropTransaction_cases state owner).1.2.1] at result
    exact stored found result (fun _ _ => .inr (.inr next))

end Rejection

end Snekql.SqliteMigrations
