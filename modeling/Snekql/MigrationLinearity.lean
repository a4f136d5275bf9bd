import Snekql.MigrationSafety

/-!
# Linear migration history under concurrency

The runs' declarations are prefixes of one chain. If the database starts with the
effects and the history of some number of the chain's migrations, it has at every
moment exactly those of some larger number, whatever runs are interleaved, fail or
are cut off. A run that returns has split its declaration into the names it
applied and the names it found.
-/

namespace Snekql.SqliteMigrations

open Snekql.Migrations

/-- The history shows exactly the first `count` migrations of the chain. -/
def HistoryAt (chain : List Migration) (count : Nat) : History → Prop
  | .absent => count = 0
  | .legacy names => names.dedup.Perm ((chain.take count).map Migration.name)
  | .current rows => rows = (chain.take count).map Migration.historyRecord
  | .unknown => False

/-- The database records the first `count` migrations of the chain and holds, after
what it held before, the effects of exactly their bodies, once each and in order. -/
structure Reaches (chain : List Migration) (statements : Migration → List String)
    (base : List String) (count : Nat) (database : Database) : Prop where
  within : count ≤ chain.length
  recorded : HistoryAt chain count database.history
  effects : database.content = base ++ (chain.take count).flatMap statements

/-- Two disjoint lists that make up a list of names, each in its order. -/
structure Splits (names applied alreadyApplied : List String) : Prop where
  ran : applied.Sublist names
  found : alreadyApplied.Sublist names
  disjoint : applied.Disjoint alreadyApplied
  covered : ∀ name ∈ names, name ∈ applied ∨ name ∈ alreadyApplied

section Accounts

variable {names applied alreadyApplied : List String}

/-- Names already accounted for are passed over. -/
theorem absorb_known {records : List MigrationRecord}
    (known : ∀ record ∈ records, record.name ∈ applied ∨ record.name ∈ alreadyApplied) :
    absorb applied alreadyApplied records = alreadyApplied := by
  induction records with
  | nil => rfl
  | cons record rest ih =>
    rw [absorb, if_pos (known record List.mem_cons_self)]
    exact ih (fun later inside => known later (List.mem_cons_of_mem _ inside))

theorem absorb_append (records later : List MigrationRecord) :
    absorb applied alreadyApplied (records ++ later) =
      absorb applied (absorb applied alreadyApplied records) later := by
  induction records generalizing alreadyApplied with
  | nil => rfl
  | cons record rest ih =>
    simp only [List.cons_append, absorb]
    split
    · exact ih
    · exact ih

/-- Distinct new names are all added, in order. -/
theorem absorb_fresh {records : List MigrationRecord}
    (distinct : (records.map MigrationRecord.name).Nodup)
    (fresh : ∀ record ∈ records, record.name ∉ applied ∧ record.name ∉ alreadyApplied) :
    absorb applied alreadyApplied records =
      alreadyApplied ++ records.map MigrationRecord.name := by
  induction records generalizing alreadyApplied with
  | nil => simp [absorb]
  | cons record rest ih =>
    obtain ⟨unseen, later⟩ := List.nodup_cons.mp distinct
    obtain ⟨notRun, notFound⟩ := fresh record List.mem_cons_self
    rw [absorb, if_neg (by simp [notRun, notFound]), ih later]
    · simp
    · intro following inside
      obtain ⟨neither, nor⟩ := fresh following (List.mem_cons_of_mem _ inside)
      refine ⟨neither, ?_⟩
      rw [List.mem_append, List.mem_singleton]
      rintro (before | same)
      · exact nor before
      · exact unseen (same ▸ List.mem_map_of_mem inside)

/-- A new name at the end of the list goes to the applied ones. -/
theorem Splits.apply (splits : Splits names applied alreadyApplied) {name : String}
    (fresh : name ∉ names) : Splits (names ++ [name]) (applied ++ [name]) alreadyApplied := by
  refine ⟨splits.ran.append (List.Sublist.refl _),
    splits.found.trans (List.sublist_append_left _ _), ?_, ?_⟩
  · intro other ran found
    obtain before | now := List.mem_append.mp ran
    · exact splits.disjoint before found
    · exact fresh (List.mem_singleton.mp now ▸ splits.found.subset found)
  · intro other present
    obtain before | now := List.mem_append.mp present
    · exact (splits.covered other before).imp_left (List.mem_append_left _)
    · exact Or.inl (List.mem_append_right _ now)

/-- New names at the end of the list that a run finds in the history. -/
theorem Splits.find (splits : Splits names applied alreadyApplied) {later : List String}
    (fresh : ∀ name ∈ later, name ∉ names) :
    Splits (names ++ later) applied (alreadyApplied ++ later) := by
  refine ⟨splits.ran.trans (List.sublist_append_left _ _),
    splits.found.append (List.Sublist.refl _), ?_, ?_⟩
  · intro other ran found
    obtain before | now := List.mem_append.mp found
    · exact splits.disjoint ran before
    · exact fresh other now (splits.ran.subset ran)
  · intro other present
    obtain before | now := List.mem_append.mp present
    · exact (splits.covered other before).imp_right (List.mem_append_left _)
    · exact Or.inr (List.mem_append_right _ now)

end Accounts

variable {working : Database} {plan : List Migration} {migration : Migration}
  {length seen index : Nat} {run : Run}

section Linearity

variable {chain : List Migration} {statements : Migration → List String} {base : List String}
  {state after : State} {count : Nat}

/-- The run has accounted for the first `seen` migrations of its declaration. -/
structure Accounted (count seen : Nat) (run : Run) : Prop where
  committed : seen ≤ count
  declared : seen ≤ run.plan.length
  splits : Splits ((run.plan.take seen).map Migration.name) run.applied run.alreadyApplied

/-- The current-shape history of the first `count` migrations. -/
def rowsOf (chain : List Migration) (count : Nat) : History :=
  .current ((chain.take count).map Migration.historyRecord)

/-- What a run knows in each phase, when `count` migrations are committed. -/
def Progress (chain : List Migration) (statements : Migration → List String) (count : Nat)
    (state : State) (index : Nat) (run : Run) : Prop :=
  match run.phase with
  | .ready => ∃ seen, Accounted count seen run
  | .begun => ∃ seen, Accounted count seen run
  | .ensured => ∃ seen, Accounted count seen run
  | .applying migration rest => Accounted count count run ∧ run.plan[count]? = some migration ∧
      ∃ working done, state.transaction = some (index, working) ∧
        statements migration = done ++ rest ∧ working.history = rowsOf chain count ∧
        working.content = state.committed.content ++ done
  | .committing none => Accounted count count run ∧ run.plan.length = count ∧
      ∃ working, state.transaction = some (index, working) ∧
        working.history = rowsOf chain count ∧ working.content = state.committed.content
  | .committing (some migration) => Accounted count count run ∧
      run.plan[count]? = some migration ∧
      ∃ working, state.transaction = some (index, working) ∧
        working.history = rowsOf chain (count + 1) ∧
        working.content = state.committed.content ++ statements migration
  | .settled none => Accounted count run.plan.length run
  | .settled (some migration) => ∃ seen, Accounted count seen run ∧ seen < count ∧
      run.plan[seen]? = some migration
  | .returned => Splits (run.plan.map Migration.name) run.applied run.alreadyApplied
  | .unwinding => True
  | .failed => True

/-- The committed database and all runs agree on how far the chain has come. -/
structure Linear (chain : List Migration) (statements : Migration → List String)
    (base : List String) (count : Nat) (state : State) : Prop where
  reaches : Reaches chain statements base count state.committed
  progress : ∀ (index : Nat) run, state.runs[index]? = some run →
    Progress chain statements count state index run

theorem Accounted.mono {later : Nat} (accounted : Accounted count seen run)
    (advanced : count ≤ later) : Accounted later seen run :=
  { accounted with committed := accounted.committed.trans advanced }

/-- What a run outside any transaction knows stays true as the chain advances. -/
theorem progress_mono {later : Nat} (outside : run.phase.inside = false) (advanced : count ≤ later)
    (progress : Progress chain statements count state index run) :
    Progress chain statements later after index run := by
  unfold Progress at progress ⊢
  cases phase : run.phase with
  | ready =>
    simp only [phase] at progress ⊢
    obtain ⟨seen, accounted⟩ := progress
    exact ⟨seen, accounted.mono advanced⟩
  | settled migration =>
    cases migration with
    | none =>
      simp only [phase] at progress ⊢
      exact progress.mono advanced
    | some migration =>
      simp only [phase] at progress ⊢
      obtain ⟨seen, accounted, earlier, next⟩ := progress
      exact ⟨seen, accounted.mono advanced, by omega, next⟩
  | returned => simpa only [phase] using progress
  | unwinding => trivial
  | failed => trivial
  | _ => simp [phase, Phase.inside] at outside

/-- One run changes, and at most its own transaction and the database with it. -/
theorem linear_set (mechanical : Mechanical chain state)
    (linear : Linear chain statements base count state) {later : Nat} {new : Run}
    (current : state.runs[index]? = some run) (runs : after.runs = state.runs.set index new)
    (advanced : count ≤ later) (reaches : Reaches chain statements base later after.committed)
    (progress : Progress chain statements later after index new)
    (others : (after.transaction = state.transaction ∧ after.committed = state.committed ∧
        later = count) ∨
      state.transaction = none ∨ ∃ working, state.transaction = some (index, working)) :
    Linear chain statements base later after := by
  refine ⟨reaches, fun other found present => ?_⟩
  obtain ⟨rfl, rfl⟩ | ⟨apart, present⟩ := stored_cases (runs ▸ present)
  · exact progress
  · have before := linear.progress other found present
    obtain ⟨transaction, committed, unchanged⟩ | mine := others
    · subst unchanged
      unfold Progress at before ⊢
      rw [transaction, committed]
      exact before
    · have outside := outside_of_other (mechanical.owns other found present) apart mine
      exact progress_mono outside advanced before

/-- Within its length a declaration has the chain's migrations. -/
theorem take_plan (declared : plan = chain.take length) (short : seen ≤ plan.length) :
    plan.take seen = chain.take seen := by
  subst declared
  rw [List.take_take, Nat.min_eq_left]
  rw [List.length_take] at short
  omega

theorem getElem?_plan (declared : plan = chain.take length) (next : plan[seen]? = some migration) :
    chain[seen]? = some migration := by
  subst declared
  rw [List.getElem?_take] at next
  split at next
  · exact next
  · cases next

/-- `_ensure_v2_history` shows the same migrations in the current shape. -/
theorem ensured_history (prepared : Prepared chain) {database : Database}
    {adoptLegacy adopted : Bool} (declared : plan = chain.take length)
    (reaches : Reaches chain statements base count database)
    (ensured : ensureV2History database plan adoptLegacy = .ok (working, adopted)) :
    working.history = rowsOf chain count ∧ working.content = database.content := by
  have recorded := reaches.recorded
  unfold ensureV2History at ensured
  split at ensured
  · next shape =>
    cases ensured
    rw [shape] at recorded
    have none : count = 0 := recorded
    simp [rowsOf, none]
  · next rows shape =>
    cases ensured
    rw [shape] at recorded
    have same : rows = (chain.take count).map Migration.historyRecord := recorded
    exact ⟨by rw [shape, same, rowsOf], rfl⟩
  · next names shape =>
    rw [shape] at recorded
    have same : names.dedup.Perm ((chain.take count).map Migration.name) := recorded
    have size : names.dedup.length = count := by
      rw [same.length_eq, List.length_map, List.length_take, Nat.min_eq_left reaches.within]
    unfold upgradeLegacyHistory at ensured
    split at ensured
    · cases ensured
    · cases checked : validateLegacyHistory names plan with
      | error problem => simp [checked, bind, Except.bind] at ensured
      | ok accepted =>
        have distinct : (plan.map Migration.name).Nodup := by
          rw [declared]
          exact (prepared.take length).distinct
        obtain ⟨accepts, short, -⟩ := (validateLegacyHistory_ok_iff distinct accepted).mp checked
        simp only [checked, bind, Except.bind] at ensured
        split at ensured
        · cases ensured
        · cases ensured
          refine ⟨?_, rfl⟩
          rw [take_plan declared short, accepts, size, rowsOf]
  · cases ensured

/-- A valid history is not longer than the declaration. -/
theorem count_le_plan (within : count ≤ chain.length) (prepared : Prepared chain)
    (declared : plan = chain.take length) (history : working.history = rowsOf chain count)
    (valid : validateHistoryPrefix (fetchHistory working) plan false 0 = .ok ()) :
    count ≤ plan.length := by
  have numbered := (prepared.take length).numbered
  rw [← declared] at numbered
  have inside := ((validateHistoryPrefix_ok_iff numbered).mp valid).length_le
  simp only [fetchHistory, history, rowsOf, List.length_map, List.length_take] at inside
  omega

/-- After reading the history a run has accounted for all of it. -/
theorem Accounted.find (accounted : Accounted count seen run) (prepared : Prepared chain)
    (declared : run.plan = chain.take length) (short : count ≤ run.plan.length)
    (history : working.history = rowsOf chain count) (phase : Phase) :
    Accounted count count { run with
      phase := phase
      alreadyApplied := absorb run.applied run.alreadyApplied (fetchHistory working) } := by
  refine ⟨Nat.le_refl _, short, ?_⟩
  have split : chain.take count = chain.take seen ++ (chain.drop seen).take (count - seen) := by
    have total : count = seen + (count - seen) := by
      have earlier := accounted.committed
      omega
    rw [← List.take_add, ← total]
  have distinct : ((chain.take count).map Migration.name).Nodup := (prepared.take count).distinct
  rw [split, List.map_append, List.nodup_append] at distinct
  obtain ⟨-, laterDistinct, apart⟩ := distinct
  have splits := accounted.splits
  rw [take_plan declared accounted.declared] at splits
  have named : ∀ migrations : List Migration,
      (migrations.map Migration.historyRecord).map MigrationRecord.name =
        migrations.map Migration.name := by
    intro migrations
    rw [List.map_map]
    rfl
  have fresh : ∀ name ∈ ((chain.drop seen).take (count - seen)).map Migration.name,
      name ∉ (chain.take seen).map Migration.name := by
    intro name later earlier
    exact apart name earlier name later rfl
  have absorbed : absorb run.applied run.alreadyApplied (fetchHistory working) =
      run.alreadyApplied ++ ((chain.drop seen).take (count - seen)).map Migration.name := by
    have passed : absorb run.applied run.alreadyApplied
        ((chain.take seen).map Migration.historyRecord) = run.alreadyApplied := by
      apply absorb_known
      intro record inside
      obtain ⟨migration, present, rfl⟩ := List.mem_map.mp inside
      exact splits.covered migration.name (List.mem_map_of_mem present)
    rw [fetchHistory, history, rowsOf, split, List.map_append, absorb_append, passed,
      absorb_fresh]
    · rw [named]
    · rw [named]
      exact laterDistinct
    · intro record inside
      obtain ⟨migration, present, rfl⟩ := List.mem_map.mp inside
      have unseen := fresh migration.name (List.mem_map_of_mem present)
      exact ⟨fun ran => unseen (splits.ran.subset ran),
        fun found => unseen (splits.found.subset found)⟩
  change Splits ((run.plan.take count).map Migration.name) run.applied _
  rw [absorbed, take_plan declared short, split, List.map_append]
  exact splits.find fresh

/-- Inserting a row with the greatest position puts it last. -/
theorem orderedInsert_last {rows : List MigrationRecord} {row : MigrationRecord}
    (greatest : ∀ other ∈ rows, other.position < row.position) :
    rows.orderedInsert (fun left right => left.position ≤ right.position) row = rows ++ [row] := by
  induction rows with
  | nil => rfl
  | cons first rest ih =>
    have smaller := greatest first List.mem_cons_self
    rw [List.orderedInsert, if_neg (by omega), List.cons_append,
      ih (fun other inside => greatest other (List.mem_cons_of_mem _ inside))]

/-- Recording the next migration extends the history by it. -/
theorem recorded_history (prepared : Prepared chain) {database : Database}
    (history : working.history = rowsOf chain count) (next : chain[count]? = some migration)
    (recorded : recordHistory working migration = some database) :
    database.history = rowsOf chain (count + 1) ∧ database.content = working.content := by
  simp only [recordHistory, history, rowsOf] at recorded
  split at recorded
  · cases recorded
  · cases recorded
    refine ⟨?_, rfl⟩
    have position : migration.position = count + 1 := prepared.numbered count migration next
    rw [orderedInsert_last, rowsOf, List.take_add_one, next, List.map_append]
    · rfl
    · intro row inside
      obtain ⟨earlier, present, rfl⟩ := List.mem_map.mp inside
      obtain ⟨place, found⟩ := List.getElem?_of_mem present
      have before : place < count := by
        have bound := (List.getElem?_eq_some_iff.mp found).1
        rw [List.length_take] at bound
        omega
      rw [List.getElem?_take_of_lt before] at found
      have numbered := prepared.numbered place earlier found
      change earlier.position < migration.position
      omega

/-- What a run that has its history in the current shape knows. -/
theorem known_ensured (prepared : Prepared chain) (mechanical : Mechanical chain state)
    (linear : Linear chain statements base count state) (current : state.runs[index]? = some run)
    (ensured : run.phase = .ensured) (owned : state.transaction = some (index, working)) :
    ∃ seen, Accounted count seen run ∧ working.history = rowsOf chain count ∧
      working.content = state.committed.content := by
  obtain ⟨length, declared⟩ := mechanical.declared index run current
  obtain ⟨_, made⟩ := mechanical.ensured current ensured owned
  have known := linear.progress index run current
  simp only [Progress, ensured] at known
  obtain ⟨seen, accounted⟩ := known
  exact ⟨seen, accounted, ensured_history prepared declared linear.reaches made⟩

/-- What a run in the middle of a body knows. -/
theorem known_applying (linear : Linear chain statements base count state) {rest : List String}
    (current : state.runs[index]? = some run) (applying : run.phase = .applying migration rest)
    (owned : state.transaction = some (index, working)) :
    Accounted count count run ∧ run.plan[count]? = some migration ∧
      ∃ done, statements migration = done ++ rest ∧ working.history = rowsOf chain count ∧
        working.content = state.committed.content ++ done := by
  have known := linear.progress index run current
  simp only [Progress, applying] at known
  obtain ⟨accounted, next, copy, done, held, split, history, content⟩ := known
  rw [owned] at held
  have own : working = copy := by simpa using held
  subst own
  exact ⟨accounted, next, done, split, history, content⟩

theorem progress_of_ended (ended : run.phase.ended = true) :
    Progress chain statements count state index run := by
  unfold Progress
  cases phase : run.phase <;> simp_all [Phase.ended]

/-- After its commit a run accounts for the migration it applied. -/
theorem Accounted.apply (accounted : Accounted count seen run) (prepared : Prepared chain)
    (declared : run.plan = chain.take length) (earlier : seen < count)
    (pending : run.plan[seen]? = some migration) :
    Accounted count (seen + 1) (proceed run (some migration)) := by
  have inside : seen < run.plan.length := (List.getElem?_eq_some_iff.mp pending).1
  refine ⟨earlier, inside, ?_⟩
  have extended : (run.plan.take (seen + 1)).map Migration.name =
      (run.plan.take seen).map Migration.name ++ [migration.name] := by
    rw [List.take_add_one, pending]
    simp
  have distinct : ((run.plan.take (seen + 1)).map Migration.name).Nodup := by
    rw [declared]
    exact ((prepared.take length).take (seen + 1)).distinct
  rw [extended, List.nodup_append] at distinct
  change Splits ((run.plan.take (seen + 1)).map Migration.name) (run.applied ++ [migration.name])
    run.alreadyApplied
  rw [extended]
  apply accounted.splits.apply
  intro present
  exact distinct.2.2 migration.name present migration.name (List.mem_singleton_self _) rfl

/-- A new run has accounted for nothing. -/
theorem accounted_initial (plan : List Migration) (adoptLegacy : Bool) :
    Accounted count 0 (Run.initial plan adoptLegacy) := by
  refine ⟨Nat.zero_le _, Nat.zero_le _, ?_⟩
  constructor <;> simp [Run.initial]

theorem Move.linear (prepared : Prepared chain) (move : Move chain statements state after)
    (mechanical : Mechanical chain state) (linear : Linear chain statements base count state) :
    ∃ later, count ≤ later ∧ Linear chain statements base later after := by
  have reaches := linear.reaches
  cases move with
  | enter length adoptLegacy =>
    refine ⟨count, Nat.le_refl _, reaches, fun index run found => ?_⟩
    obtain before | rfl := getElem?_enter found
    · exact linear.progress index run before
    · exact ⟨0, accounted_initial _ _⟩
  | @beginImmediate index run phase current ready free next =>
    refine ⟨count, Nat.le_refl _, linear_set mechanical linear current rfl (Nat.le_refl _) reaches
      ?_ (Or.inr (Or.inl free))⟩
    have known := linear.progress index run current
    simp only [Progress, ready] at known
    obtain ⟨seen, accounted⟩ := known
    obtain rfl | rfl := next
    · exact ⟨seen, { accounted with }⟩
    · trivial
  | @ensure index run working database adopted current begun owned ensured =>
    refine ⟨count, Nat.le_refl _, linear_set mechanical linear current rfl (Nat.le_refl _) reaches
      ?_ (Or.inr (Or.inr ⟨working, owned⟩))⟩
    have known := linear.progress index run current
    simp only [Progress, begun] at known
    obtain ⟨seen, accounted⟩ := known
    exact ⟨seen, { accounted with }⟩
  | @complete index run working current ensured owned valid whole =>
    obtain ⟨length, declared⟩ := mechanical.declared index run current
    obtain ⟨seen, accounted, history, content⟩ :=
      known_ensured prepared mechanical linear current ensured owned
    have short := count_le_plan reaches.within prepared declared history valid
    refine ⟨count, Nat.le_refl _, linear_set mechanical linear current rfl (Nat.le_refl _) reaches
      ?_ (Or.inl ⟨rfl, rfl, rfl⟩)⟩
    refine ⟨accounted.find prepared declared short history _, ?_, working, owned, history, content⟩
    rw [← whole, fetchHistory, history, rowsOf]
    simp [reaches.within]
  | @start index run working migration current ensured owned valid pending =>
    obtain ⟨length, declared⟩ := mechanical.declared index run current
    obtain ⟨seen, accounted, history, content⟩ :=
      known_ensured prepared mechanical linear current ensured owned
    have short := count_le_plan reaches.within prepared declared history valid
    refine ⟨count, Nat.le_refl _, linear_set mechanical linear current rfl (Nat.le_refl _) reaches
      ?_ (Or.inl ⟨rfl, rfl, rfl⟩)⟩
    refine ⟨accounted.find prepared declared short history _, ?_, working, [], owned, rfl, history,
      content.trans (List.append_nil _).symm⟩
    have size : (fetchHistory working).length = count := by
      rw [fetchHistory, history, rowsOf]
      simp [reaches.within]
    rw [← size]
    exact pending
  | @statement index run working migration statement rest current applying owned =>
    obtain ⟨accounted, next, done, split, history, content⟩ :=
      known_applying linear current applying owned
    refine ⟨count, Nat.le_refl _, linear_set mechanical linear current rfl (Nat.le_refl _) reaches
      ?_ (Or.inr (Or.inr ⟨working, owned⟩))⟩
    refine ⟨{ accounted with }, next, _,
      done ++ [statement], rfl, by simp [split], history, ?_⟩
    change working.content ++ [statement] = state.committed.content ++ (done ++ [statement])
    rw [content, List.append_assoc]
  | @record index run working database migration current applying owned recorded =>
    obtain ⟨length, declared⟩ := mechanical.declared index run current
    obtain ⟨accounted, next, done, split, history, content⟩ :=
      known_applying linear current applying owned
    obtain ⟨extended, kept⟩ :=
      recorded_history prepared history (getElem?_plan declared next) recorded
    refine ⟨count, Nat.le_refl _, linear_set mechanical linear current rfl (Nat.le_refl _) reaches
      ?_ (Or.inr (Or.inr ⟨working, owned⟩))⟩
    refine ⟨{ accounted with }, next, database, rfl,
      extended, ?_⟩
    change database.content = state.committed.content ++ statements migration
    rw [kept, content, split, List.append_nil]
  | @commit index run working migration phase current committing owned next =>
    obtain ⟨length, declared⟩ := mechanical.declared index run current
    have known := linear.progress index run current
    cases migration with
    | none =>
      simp only [Progress, committing] at known
      obtain ⟨accounted, whole, copy, held, history, content⟩ := known
      rw [owned] at held
      have own : working = copy := by simpa using held
      subst own
      have same : Reaches chain statements base count working := by
        refine ⟨reaches.within, ?_, content.trans reaches.effects⟩
        rw [history]
        rfl
      refine ⟨count, Nat.le_refl _, linear_set mechanical linear current rfl (Nat.le_refl _) same
        ?_ (Or.inr (Or.inr ⟨working, owned⟩))⟩
      obtain rfl | rfl := next
      · refine ⟨whole.le, Nat.le_refl _, ?_⟩
        simp only [whole]
        exact accounted.splits
      · trivial
    | some migration =>
      simp only [Progress, committing] at known
      obtain ⟨accounted, pending, copy, held, history, content⟩ := known
      rw [owned] at held
      have own : working = copy := by simpa using held
      subst own
      have following := getElem?_plan declared pending
      have extended : Reaches chain statements base (count + 1) working := by
        refine ⟨(List.getElem?_eq_some_iff.mp following).1, ?_, ?_⟩
        · rw [history]
          rfl
        · rw [content, reaches.effects, List.take_add_one, following]
          simp
      refine ⟨count + 1, Nat.le_succ _, linear_set mechanical linear current rfl (Nat.le_succ _)
        extended ?_ (Or.inr (Or.inr ⟨working, owned⟩))⟩
      obtain rfl | rfl := next
      · exact ⟨count, ⟨Nat.le_succ _, accounted.declared, accounted.splits⟩,
          Nat.lt_succ_self _, pending⟩
      · trivial
  | @proceed index run migration current settled =>
    obtain ⟨length, declared⟩ := mechanical.declared index run current
    have known := linear.progress index run current
    refine ⟨count, Nat.le_refl _, ?_⟩
    cases migration with
    | none =>
      simp only [Progress, settled] at known
      refine linear_set mechanical linear current rfl (Nat.le_refl _) reaches ?_
        (Or.inl ⟨rfl, rfl, rfl⟩)
      have splits := known.splits
      rw [List.take_length] at splits
      exact splits
    | some migration =>
      simp only [Progress, settled] at known
      obtain ⟨seen, accounted, earlier, pending⟩ := known
      refine linear_set mechanical linear current rfl (Nat.le_refl _) reaches ?_
        (Or.inl ⟨rfl, rfl, rfl⟩)
      exact ⟨seen + 1, accounted.apply prepared declared earlier pending⟩
  | @giveUp index run phase current unfinished next =>
    exact ⟨count, Nat.le_refl _, linear_set mechanical linear current rfl (Nat.le_refl _) reaches
      (progress_of_ended next) (Or.inl ⟨rfl, rfl, rfl⟩)⟩
  | @abandon index run phase current unfinished next =>
    obtain ⟨⟨committed, runs, -⟩, taken⟩ := dropTransaction_cases state index
    have stored : ((state.dropTransaction index).setRun index { run with phase := phase }).runs =
        state.runs.set index { run with phase := phase } :=
      congrArg (fun runs => runs.set index { run with phase := phase }) runs
    have same : Reaches chain statements base count (state.dropTransaction index).committed :=
      committed.symm ▸ reaches
    refine ⟨count, Nat.le_refl _, linear_set mechanical linear current stored (Nat.le_refl _) same
      (progress_of_ended next) ?_⟩
    obtain kept | held := taken
    · exact Or.inl ⟨kept, committed, rfl⟩
    · exact Or.inr (Or.inr held)

end Linearity

/-- What any step does about a history that is not a prefix of a run's declaration. -/
structure Rejects (chain : List Migration) (statements : Migration → List String)
    (state : State) : Prop where
  /-- A step starts no body, or the body of a run whose declaration extends the history. -/
  bodies : ∀ event next, step chain statements state event = some next →
    next.started = state.started ∨
      ∃ (index : Nat) (run : Run) (name : String),
        next.started = state.started ++ [(index, name)] ∧ state.runs[index]? = some run ∧
          PrefixOf run.plan state.committed.history
  /-- A run that has begun over another history can only go on to give up. -/
  foreign : ∀ event next, step chain statements state event = some next →
    ∀ (index : Nat) (run new : Run), state.runs[index]? = some run →
      run.phase = .begun ∨ run.phase = .ensured →
      ¬ PrefixOf run.plan state.committed.history → next.runs[index]? = some new →
      new.phase = run.phase ∨ new.phase = .ensured ∨ new.phase.ended = true

section Results

variable {chain : List Migration} {statements : Migration → List String} {state : State}

theorem rejects_of_mechanical (prepared : Prepared chain) (mechanical : Mechanical chain state) :
    Rejects chain statements state := by
  constructor
  · intro event next stepped
    have move := step_moves stepped
    obtain same | ⟨index, name, grown⟩ := move.started_cases
    · exact Or.inl same
    · obtain ⟨run, current, inside⟩ := move.started prepared mechanical grown
      exact Or.inr ⟨index, run, name, grown, current, inside⟩
  · intro event next stepped index run new current holding foreign result
    exact (step_moves stepped).rejected prepared mechanical current holding foreign result

end Results

end Snekql.SqliteMigrations
