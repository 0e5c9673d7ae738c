import RowIngest.Proofs.Alongside
import RowIngest.Proofs.Stepping
/-!
Two loads of one configuration that keep in step. Between them only surroundings, rows and history
may differ, and the surroundings keep them related, in whatever way, with all that is asked of them.
Then every action that a load is made of keeps them related, provided that the rows are mapped
alike. Main statement: two runs come to the same result or fault, if the rows that come next always
fit.
-/
namespace RowIngest

open RowIngest.Action

variable {σ₁ σ₂ : Type}

/-- The mapping makes the same of two rows. -/
structure LoadConfig.Equates (c : LoadConfig) (room : Room) (a b : Value) : Prop where
  document : c.mapDocument room a = c.mapDocument room b
  query : (Row.read (Query.matched c.fields) a >>= Query.ofRow c.fields) =
    (Row.read (Query.matched c.fields) b >>= Query.ofRow c.fields)
  update : c.mapUpdate a = c.mapUpdate b

theorem LoadConfig.Equates.refl (c : LoadConfig) (room : Room) (row : Value) :
    c.Equates room row row :=
  ⟨rfl, rfl, rfl⟩

/-- Related loads differ by surroundings, rows and history at most, and stay related whatever is
asked of their surroundings. -/
structure Accord (c : LoadConfig) (s₁ : Surroundings σ₁) (s₂ : Surroundings σ₂)
    (Q : Load σ₁ → Load σ₂ → Prop) : Prop where
  arrays : s₁.acceptsArrays = s₂.acceptsArrays
  room : s₁.room = s₂.room
  same {l₁ : Load σ₁} {l₂ : Load σ₂} : Q l₁ l₂ →
    l₂ = { l₁ with surroundings := l₂.surroundings, rows := l₂.rows, history := l₂.history }
  rows_length {l₁ : Load σ₁} {l₂ : Load σ₂} : Q l₁ l₂ → l₂.rows.length = l₁.rows.length
  /-- What is changed in both loads alike, apart from these three. -/
  update {f : Load σ₁ → Load σ₁} {g : Load σ₂ → Load σ₂}
    (hsame : ∀ l x rows a, g { l with surroundings := x, rows := rows, history := a } =
      { f l with surroundings := x, rows := rows, history := a })
    (hkept : ∀ l, (f l).surroundings = l.surroundings ∧ (f l).rows = l.rows ∧
      (f l).history = l.history) {l₁ : Load σ₁} {l₂ : Load σ₂} : Q l₁ l₂ → Q (f l₁) (g l₂)
  /-- What is said or marked in one of the loads does not count. -/
  noted_left {e : Event} (he : e.isAct = false) {l₁ : Load σ₁} {l₂ : Load σ₂} :
    Q l₁ l₂ → Q (l₁.record e) l₂
  noted_right {e : Event} (he : e.isAct = false) {l₁ : Load σ₁} {l₂ : Load σ₂} :
    Q l₁ l₂ → Q l₁ (l₂.record e)
  processed {l₁ : Load σ₁} {l₂ : Load σ₂} :
    Q l₁ l₂ → Q (l₁.record .processed) (l₂.record .processed)
  completed {l₁ : Load σ₁} {l₂ : Load σ₂} :
    Q l₁ l₂ → Q (l₁.record .completed) (l₂.record .completed)
  pull {l₁ : Load σ₁} {l₂ : Load σ₂} : Q l₁ l₂ → Q (exec pull l₁).2 (exec pull l₂).2
  isCancelled : Alongside Q Eq (isCancelled s₁) (isCancelled s₂)
  command (k : Command) : Alongside Q Eq (command s₁ k) (command s₂ k)
  createIndex (q : IndexRequest) : Alongside Q Eq (createIndex s₁ q) (createIndex s₂ q)
  write (context : Fields) (w : Write) : Alongside Q (fun a b => a.isSome = b.isSome)
    (Retry.write s₁ c.policy context w) (Retry.write s₂ c.policy context w)

/-- Whichever rows come next in the two loads, they are checked alike and mapped alike, as far as
they are checked and mapped. -/
def Fit (c : LoadConfig) (acceptsArrays : Bool) (room : Room) (l₁ : Load σ₁) (l₂ : Load σ₂) :
    Prop :=
  Option.Rel (fun a b =>
    (l₁.phase = .uninitialized → c.inspectFields a = c.inspectFields b) ∧
      (l₁.phase ≠ .uninitialized ∨ c.checkMapping acceptsArrays = .ok () → c.Equates room a b))
    (offered l₁.rows).head? (offered l₂.rows).head?

theorem exec_pull {σ : Type} (l : Load σ) :
    (exec pull l).1 = .ok (offered l.rows).head? ∧ (exec pull l).2.phase = l.phase := by
  rcases hrows : l.rows with _ | ⟨row, rest⟩
  · simp [pull, hrows, offered, Load.record]
  · by_cases hrow : row = .null
    · subst hrow
      simp [pull, hrows, offered, Load.record]
    · rw [offered_cons hrow]
      simp [pull, hrows, Load.record]

namespace Accord

variable {c : LoadConfig} {s₁ : Surroundings σ₁} {s₂ : Surroundings σ₂}
  {Q : Load σ₁ → Load σ₂ → Prop} {a b : Value} {own : Bool} {l₁ : Load σ₁} {l₂ : Load σ₂}
  (h : Accord c s₁ s₂ Q)

include h

/-- What does not depend on surroundings, rows and history is the same in related loads. -/
theorem read {β : Type} (hl : Q l₁ l₂) {f : Load σ₁ → β} {g : Load σ₂ → β}
    (hfg : ∀ l x rows a, g { l with surroundings := x, rows := rows, history := a } = f l) :
    g l₂ = f l₁ := by
  rw [h.same hl, hfg]

theorem modify_alongside {f : Load σ₁ → Load σ₁} {g : Load σ₂ → Load σ₂}
    (hsame : ∀ l x rows a, g { l with surroundings := x, rows := rows, history := a } =
      { f l with surroundings := x, rows := rows, history := a })
    (hkept : ∀ l, (f l).surroundings = l.surroundings ∧ (f l).rows = l.rows ∧
      (f l).history = l.history) :
    Alongside Q Eq (modify f : Action σ₁ PUnit) (modify g : Action σ₂ PUnit) :=
  .modify fun _ _ hl => h.update hsame hkept hl

theorem happen_alongside {e e' : Event} (he : e.isAct = false) (he' : e'.isAct = false) :
    Alongside Q Eq (happen e) (happen e') :=
  .modify fun _ _ hl => h.noted_left he (h.noted_right he' hl)

theorem log_alongside (level : Log.Level) (logger : Log.Logger) (message : String)
    (extra extra' : Fields) :
    Alongside Q Eq (log level logger message extra : Action σ₁ Unit)
      (log level logger message extra' : Action σ₂ Unit) :=
  h.happen_alongside rfl rfl

theorem enterPhase_alongside (phase : Phase) :
    Alongside Q Eq (Loader.enterPhase phase : Action σ₁ Unit)
      (Loader.enterPhase phase : Action σ₂ Unit) :=
  h.modify_alongside (fun _ _ _ _ => rfl) fun _ => ⟨rfl, rfl, rfl⟩

theorem skip_alongside (reason : String) :
    Alongside Q Eq (Loader.skip reason : Action σ₁ Unit) (Loader.skip reason : Action σ₂ Unit) := by
  unfold Loader.skip
  refine .andThen (h.modify_alongside ?_ ?_) (.bind .get fun _ _ _ => ?_)
  · exact fun _ _ _ _ => rfl
  · exact fun _ => ⟨rfl, rfl, rfl⟩
  · exact h.log_alongside _ _ _ _ _

theorem closeStore_alongside :
    Alongside Q Eq (Loader.closeStore ⟨c, s₁, own⟩) (Loader.closeStore ⟨c, s₂, own⟩) := by
  unfold Loader.closeStore
  refine .bind .get fun l₁ l₂ hl => ?_
  have hphase : l₂.phase = l₁.phase := h.read hl fun _ _ _ _ => rfl
  rw [hphase]
  exact .ite Iff.rfl (.andThen (h.enterPhase_alongside _) (h.command _)) (.pure rfl)

theorem resolveShape_alongside :
    Alongside Q Eq (Loader.resolveShape c : Action σ₁ Unit)
      (Loader.resolveShape c : Action σ₂ Unit) := by
  have hshape : Alongside Q Eq
      (modify fun l => { l with shape := some c.shape } : Action σ₁ Unit)
      (modify fun l => { l with shape := some c.shape } : Action σ₂ Unit) :=
    h.modify_alongside (fun _ _ _ _ => rfl) fun _ => ⟨rfl, rfl, rfl⟩
  unfold Loader.resolveShape
  exact .ite Iff.rfl (.andThen (h.log_alongside _ _ _ _ _) hshape) hshape

theorem prepareCollection_alongside :
    Alongside Q Eq (Loader.prepareCollection ⟨c, s₁, own⟩)
      (Loader.prepareCollection ⟨c, s₂, own⟩) := by
  simp only [Loader.prepareCollection]
  refine .ite Iff.rfl (.andThen (h.log_alongside _ _ _ _ _)
    (.andThen (h.command _) (.andThen (h.modify_alongside ?_ ?_) ?_))) ?_
  · exact fun _ _ _ _ => rfl
  · exact fun _ => ⟨rfl, rfl, rfl⟩
  · exact h.command _
  · exact h.command _

/-- Of a row it only matters to its check which of the mapped fields it lacks. -/
theorem checkRow_alongside (hab : c.inspectFields a = c.inspectFields b) :
    Alongside Q Eq (Loader.checkRow c a : Action σ₁ Unit)
      (Loader.checkRow c b : Action σ₂ Unit) := by
  intro l₁ l₂ hl
  rcases Loader.checkRow_cases c a l₁ with ha | ⟨said, ha⟩ <;>
    rcases Loader.checkRow_cases c b l₂ with hb | ⟨said', hb⟩ <;>
    rw [ha, hb, hab] <;>
    refine ⟨.refl _, ?_⟩
  · exact hl
  · exact h.noted_right rfl hl
  · exact h.noted_left rfl hl
  · exact h.noted_left rfl (h.noted_right rfl hl)

/-- Both loads are prepared only for a mapping that passes its check. -/
theorem prepare_alongside (hab : c.inspectFields a = c.inspectFields b) :
    Alongside Q (fun _ _ => c.checkMapping s₁.acceptsArrays = .ok ())
      (Loader.prepare ⟨c, s₁, own⟩ a) (Loader.prepare ⟨c, s₂, own⟩ b) := by
  simp only [Loader.prepare, ← h.arrays]
  refine .andThen h.resolveShape_alongside ?_
  rcases hmapping : c.checkMapping s₁.acceptsArrays with problem | ⟨⟩
  · exact .bind (V := fun _ _ => False) (.throw _) fun _ _ hfalse => hfalse.elim
  · have hactive : Alongside Q (fun _ _ => True)
        (do Loader.enterPhase .active
            log .info .rows "Pipeline active"
              [("shape", .str c.shape.name), ("batch_size", .int c.batchSize),
                ("upsert", .bool c.upsert), ("modifier_update", .bool c.modifierUpdate)])
        (do Loader.enterPhase .active
            log .info .rows "Pipeline active"
              [("shape", .str c.shape.name), ("batch_size", .int c.batchSize),
                ("upsert", .bool c.upsert), ("modifier_update", .bool c.modifierUpdate)]) :=
      .andThen (h.enterPhase_alongside _) ((h.log_alongside _ _ _ _ _).mono fun _ _ _ => trivial)
    exact .andThen (h.checkRow_alongside hab) (.andThen h.prepareCollection_alongside
      (hactive.mono fun _ _ _ => rfl))

theorem document_alongside (hab : c.Equates s₁.room a b) :
    Alongside Q Eq (Loader.document c s₁.room a : Action σ₁ (Option Value))
      (Loader.document c s₂.room b : Action σ₂ (Option Value)) := by
  have hmapped := hab.document
  unfold LoadConfig.mapDocument at hmapped
  rw [← h.room]
  unfold Loader.document
  rcases hplan : c.documentPlan s₁.room with problem | mapper
  · exact .throw _
  · rw [hplan] at hmapped
    have hmade : (do mapper.map (← Row.read mapper.fields a)) =
        (do mapper.map (← Row.read mapper.fields b)) := hmapped
    dsimp only
    rw [hmade]
    refine .bind (.settle _) ?_
    rintro (_ | d) _ rfl
    · exact .pure rfl
    · exact .ite Iff.rfl (.andThen (h.log_alongside _ _ _ _ _) (.pure rfl)) (.pure rfl)

theorem query_alongside (hab : c.Equates s₁.room a b) :
    Alongside Q Eq (Loader.query c a : Action σ₁ (Option Value))
      (Loader.query c b : Action σ₂ (Option Value)) := by
  unfold Loader.query
  dsimp only
  rw [hab.query]
  refine .bind (.settle _) ?_
  rintro (_ | conditions) _ rfl
  · exact .pure rfl
  · exact .andThen (h.log_alongside _ _ _ _ _) (.pure rfl)

theorem modifierUpdate_alongside (hab : c.Equates s₁.room a b) :
    Alongside Q Eq (Loader.modifierUpdate c a : Action σ₁ (Option Value))
      (Loader.modifierUpdate c b : Action σ₂ (Option Value)) := by
  have hmade := hab.update
  unfold LoadConfig.mapUpdate at hmade
  unfold Loader.modifierUpdate
  dsimp only
  rw [hmade]
  refine .bind (.settle _) ?_
  rintro (_ | update) _ rfl
  · exact .pure rfl
  · exact .andThen (h.log_alongside _ _ _ _ _) (.pure rfl)

theorem takeBuffer_alongside :
    Alongside Q Eq (Batch.takeBuffer : Action σ₁ (List Value))
      (Batch.takeBuffer : Action σ₂ (List Value)) := by
  refine .modifyGet fun l₁ l₂ hl => ?_
  have hbuffer : l₂.buffer = l₁.buffer := h.read hl fun _ _ _ _ => rfl
  exact ⟨hbuffer.symm, h.update (f := fun l => { l with buffer := [] })
    (g := fun l => { l with buffer := [] }) (fun _ _ _ _ => rfl) (fun _ => ⟨rfl, rfl, rfl⟩) hl⟩

theorem flush_alongside :
    Alongside Q (fun _ _ => True) (Batch.flush s₁ c.policy) (Batch.flush s₂ c.policy) := by
  simp only [Batch.flush]
  refine .bind h.takeBuffer_alongside ?_
  rintro batch _ rfl
  refine .ite Iff.rfl (.pure trivial) (.bind (h.write _ _) fun o o' ho => ?_)
  rw [ho]
  refine .ite Iff.rfl (.andThen (h.modify_alongside ?_ ?_) ?_) (.pure trivial)
  · exact fun _ _ _ _ => rfl
  · exact fun _ => ⟨rfl, rfl, rfl⟩
  · exact .andThen (h.log_alongside _ _ _ _ _) (.pure trivial)

theorem add_alongside (capacity : Nat) (document : Value) :
    Alongside Q Eq (Batch.add s₁ c.policy capacity document)
      (Batch.add s₂ c.policy capacity document) := by
  simp only [Batch.add]
  refine .andThen (h.modify_alongside ?_ ?_) (.bind .get fun l₁ l₂ hl => ?_)
  · exact fun _ _ _ _ => rfl
  · exact fun _ => ⟨rfl, rfl, rfl⟩
  · have hbuffer : l₂.buffer = l₁.buffer := h.read hl fun _ _ _ _ => rfl
    rw [hbuffer]
    exact .ite Iff.rfl (.andThen (h.log_alongside _ _ _ _ _)
      (.andThen h.flush_alongside (.pure rfl))) (.pure rfl)

theorem upsert_alongside (query document : Value) (multi : Bool) :
    Alongside Q (fun _ _ => True) (Upsert.write s₁ c.policy query document multi)
      (Upsert.write s₂ c.policy query document multi) := by
  unfold Upsert.write
  cases Upsert.choose query document multi with
  | error problem => exact .throw _
  | ok w =>
    dsimp only
    refine .bind (h.write _ _) fun o o' ho => ?_
    rw [ho]
    refine .ite Iff.rfl (.andThen (h.modify_alongside ?_ ?_) (.pure trivial)) (.pure trivial)
    · exact fun _ _ _ _ => rfl
    · exact fun _ => ⟨rfl, rfl, rfl⟩

theorem insertRow_alongside (hab : c.Equates s₁.room a b) :
    Alongside Q Eq (Loader.insertRow ⟨c, s₁, own⟩ a) (Loader.insertRow ⟨c, s₂, own⟩ b) := by
  unfold Loader.insertRow
  refine .bind (h.document_alongside hab) ?_
  rintro (_ | d) _ rfl
  · exact h.skip_alongside _
  · exact h.add_alongside _ _

theorem upsertRow_alongside (hab : c.Equates s₁.room a b) :
    Alongside Q Eq (Loader.upsertRow ⟨c, s₁, own⟩ a) (Loader.upsertRow ⟨c, s₂, own⟩ b) := by
  simp only [Loader.upsertRow]
  refine .bind (h.query_alongside hab) ?_
  rintro (_ | q) _ rfl
  · exact h.skip_alongside _
  · refine .ite Iff.rfl (.bind (h.modifierUpdate_alongside hab) ?_)
      (.bind (h.document_alongside hab) ?_)
    all_goals
      rintro (_ | d) _ rfl
      · exact h.skip_alongside _
      · exact .andThen (h.upsert_alongside q d c.multi) (.pure rfl)

/-- What is done with rows that are mapped alike. -/
theorem takeRow_alongside (hab : c.Equates s₁.room a b) :
    Alongside Q Eq (Loader.takeRow ⟨c, s₁, own⟩ a) (Loader.takeRow ⟨c, s₂, own⟩ b) := by
  have hreported : Alongside Q Eq (Loader.reportProcessed : Action σ₁ Unit)
      (Loader.reportProcessed : Action σ₂ Unit) :=
    .modify fun _ _ hl => h.update (f := fun l => { l with rowsProcessed := l.rowsProcessed + 1 })
      (g := fun l => { l with rowsProcessed := l.rowsProcessed + 1 }) (fun _ _ _ _ => rfl)
      (fun _ => ⟨rfl, rfl, rfl⟩) (h.processed hl)
  unfold Loader.takeRow Loader.handleRow
  refine .andThen (.andThen (h.modify_alongside ?_ ?_)
    (.ite Iff.rfl (h.upsertRow_alongside hab) (h.insertRow_alongside hab)))
    (.andThen hreported (.pure rfl))
  · exact fun _ _ _ _ => rfl
  · exact fun _ => ⟨rfl, rfl, rfl⟩

theorem applyOne_alongside (truncated : Bool) (made : List String) (spec : IndexChange) :
    Alongside Q Eq (Indexing.applyOne s₁ truncated made spec)
      (Indexing.applyOne s₂ truncated made spec) := by
  simp only [Indexing.applyOne]
  refine .ite Iff.rfl (.ite Iff.rfl ?_ ?_) ?_
  · exact .andThen (h.log_alongside _ _ _ _ _) (.pure rfl)
  · exact .andThen (h.log_alongside _ _ _ _ _) (.andThen (h.command _) (.pure rfl))
  · refine .andThen (h.log_alongside _ _ _ _ _) (.bind (h.createIndex _) ?_)
    rintro name _ rfl
    exact .pure rfl

theorem apply_alongside (truncated : Bool) (specs : List IndexChange) :
    Alongside Q Eq (Indexing.apply s₁ truncated specs) (Indexing.apply s₂ truncated specs) := by
  unfold Indexing.apply
  cases specs.find? (!Indexing.isCoverable ·) with
  | some spec => exact .throw _
  | none =>
    refine .foldlM (fun made _ hmade spec _ => ?_) rfl
    subst hmade
    exact h.applyOne_alongside truncated made spec

theorem finish_alongside :
    Alongside Q Eq (Loader.finish ⟨c, s₁, own⟩) (Loader.finish ⟨c, s₂, own⟩) := by
  have hclosed : Alongside Q Eq
      (do Loader.closeStore ⟨c, s₁, own⟩
          log .info .rows "Pipeline finished" (← get).stats.toFields)
      (do Loader.closeStore ⟨c, s₂, own⟩
          log .info .rows "Pipeline finished" (← get).stats.toFields) :=
    .andThen h.closeStore_alongside (.bind .get fun _ _ _ => h.log_alongside _ _ _ _ _)
  simp only [Loader.finish]
  refine .andThen (h.enterPhase_alongside _) (.bind .get fun l₁ l₂ hl => ?_)
  have hbuffer : l₂.buffer = l₁.buffer := h.read hl fun _ _ _ _ => rfl
  rw [hbuffer]
  refine .ite Iff.rfl (.andThen h.flush_alongside ?_) ?_
  all_goals
    refine .ite Iff.rfl
      (.andThen (h.log_alongside _ _ _ _ _) (.bind .get fun l₁ l₂ hl => ?_)) hclosed
    have htruncated : l₂.truncated = l₁.truncated := h.read hl fun _ _ _ _ => rfl
    rw [htruncated]
    exact .andThen (h.apply_alongside _ _) hclosed

theorem reportComplete_alongside :
    Alongside Q Eq (Loader.reportComplete : Action σ₁ Unit)
      (Loader.reportComplete : Action σ₂ Unit) :=
  .modify fun _ _ hl => h.update (f := fun l => { l with complete := true })
    (g := fun l => { l with complete := true }) (fun _ _ _ _ => rfl) (fun _ => ⟨rfl, rfl, rfl⟩)
    (h.completed hl)

/-- A row is taken alike, after the preparation that is due for the first one. -/
theorem taken_meets (hl : Q l₁ l₂)
    (hinspect : l₁.phase = .uninitialized → c.inspectFields a = c.inspectFields b)
    (hequates : l₁.phase ≠ .uninitialized ∨ c.checkMapping s₁.acceptsArrays = .ok () →
      c.Equates s₁.room a b) :
    Meets Q Eq
      (do if (← get).phase = .uninitialized then Loader.prepare ⟨c, s₁, own⟩ a
          Loader.takeRow ⟨c, s₁, own⟩ a)
      (do if (← get).phase = .uninitialized then Loader.prepare ⟨c, s₂, own⟩ b
          Loader.takeRow ⟨c, s₂, own⟩ b) l₁ l₂ := by
  refine .get_bind ?_
  have hphase : l₂.phase = l₁.phase := h.read hl fun _ _ _ _ => rfl
  rw [hphase]
  by_cases hfresh : l₁.phase = .uninitialized
  · rw [if_pos hfresh, if_pos hfresh]
    refine (h.prepare_alongside (hinspect hfresh)).bind (fun _ _ hchecked => ?_) l₁ l₂ hl
    exact h.takeRow_alongside (hequates (Or.inr hchecked))
  · rw [if_neg hfresh, if_neg hfresh]
    exact h.takeRow_alongside (hequates (Or.inl hfresh)) l₁ l₂ hl

/-- A step is taken alike if the rows fit that come next. -/
theorem step_meets (hl : Q l₁ l₂) (hfit : Fit c s₁.acceptsArrays s₁.room l₁ l₂) :
    Meets Q Eq (Loader.step ⟨c, s₁, own⟩) (Loader.step ⟨c, s₂, own⟩) l₁ l₂ := by
  have hasked := h.isCancelled l₁ l₂ hl
  unfold Loader.step
  refine Meets.bind hasked ?_
  rintro stop _ rfl
  rw [exec_isCancelled, exec_isCancelled] at hasked ⊢
  cases stop with
  | true =>
    have hstopped : Alongside Q Eq
        (do log .info .rows "Pipeline stopped" [("rows_read", .int (← get).rowsRead)]
            Loader.closeStore ⟨c, s₁, own⟩
            return false)
        (do log .info .rows "Pipeline stopped" [("rows_read", .int (← get).rowsRead)]
            Loader.closeStore ⟨c, s₂, own⟩
            return false) :=
      .bind .get fun _ _ _ => .andThen (h.log_alongside _ _ _ _ _)
        (.andThen h.closeStore_alongside (.pure rfl))
    exact hstopped _ _ hasked.2
  | false =>
    refine Meets.bind (V := Option.Rel fun a b =>
      (l₁.phase = .uninitialized → c.inspectFields a = c.inspectFields b) ∧
        (l₁.phase ≠ .uninitialized ∨ c.checkMapping s₁.acceptsArrays = .ok () →
          c.Equates s₁.room a b))
      ⟨?_, h.pull hasked.2⟩ ?_
    · rw [(exec_pull _).1, (exec_pull _).1]
      exact .ok hfit
    · rintro _ _ (⟨hinspect, hequates⟩ | _)
      · have hphase :=
          (exec_pull { l₁ with surroundings := (s₁.cancelled l₁.surroundings).2 }).2
        refine h.taken_meets (h.pull hasked.2) ?_ ?_
        · rw [hphase]
          exact hinspect
        · rw [hphase]
          exact hequates
      · have hended : Alongside Q Eq
            (do Loader.finish ⟨c, s₁, own⟩
                Loader.reportComplete
                return false)
            (do Loader.finish ⟨c, s₂, own⟩
                Loader.reportComplete
                return false) :=
          .andThen h.finish_alongside (.andThen h.reportComplete_alongside (.pure rfl))
        exact hended _ _ (h.pull hasked.2)

/-- A scope is entered and left alike. What is taken in it begins with the rows and in the phase in
which the scope is entered. -/
theorem inScope_meets (own : Bool) {α : Type} {x : Action σ₁ α} {y : Action σ₂ α} (hl : Q l₁ l₂)
    (hxy : ∀ l₁' l₂', Q l₁' l₂' → l₁'.rows = l₁.rows ∧ l₂'.rows = l₂.rows ∧ l₁'.phase = l₁.phase →
      Meets Q Eq x y l₁' l₂') :
    Meets Q Eq (Loader.inScope own x) (Loader.inScope own y) l₁ l₂ := by
  simp only [Loader.inScope]
  cases own with
  | false => exact hxy l₁ l₂ hl ⟨rfl, rfl, rfl⟩
  | true =>
    have hleft : Alongside Q Eq (happen .left : Action σ₁ Unit) (happen .left : Action σ₂ Unit) :=
      h.happen_alongside rfl rfl
    have hentered : Q (l₁.record .entered) (l₂.record .entered) :=
      h.noted_left rfl (h.noted_right rfl hl)
    have htaken := hxy _ _ hentered ⟨rfl, rfl, rfl⟩
    refine Meets.bind (V := Eq) ⟨.ok rfl, hentered⟩ fun _ _ _ => ?_
    have hguarded := htaken.tryCatch fun f =>
      (hleft.andThen (.throw f)) _ _ htaken.2
    refine hguarded.bind ?_
    rintro r _ rfl
    exact (hleft.andThen (.pure rfl)) _ _ hguarded.2

/-- Loads are advanced alike if the rows fit that come next. -/
theorem advance_meets (hl : Q l₁ l₂) (hfit : Fit c s₁.acceptsArrays s₁.room l₁ l₂) :
    Meets Q Eq (Loader.advance ⟨c, s₁, own⟩) (Loader.advance ⟨c, s₂, own⟩) l₁ l₂ := by
  have hstep : ∀ l₁' l₂', Q l₁' l₂' →
      l₁'.rows = l₁.rows ∧ l₂'.rows = l₂.rows ∧ l₁'.phase = l₁.phase →
      Meets Q Eq (Loader.step ⟨c, s₁, own⟩) (Loader.step ⟨c, s₂, own⟩) l₁' l₂' := by
    rintro l₁' l₂' hl' ⟨hrows₁, hrows₂, hphase⟩
    refine h.step_meets hl' ?_
    unfold Fit
    rw [hrows₁, hrows₂, hphase]
    exact hfit
  have hscope := h.inScope_meets own hl hstep
  have hphase : l₂.phase = l₁.phase := h.read hl fun _ _ _ _ => rfl
  refine .get_bind ?_
  rw [hphase]
  by_cases hended : l₁.phase = .terminated
  · rw [if_pos hended, if_pos hended]
    exact Alongside.pure rfl _ _ hl
  · rw [if_neg hended, if_neg hended]
    exact hscope.tryCatch fun f => (h.closeStore_alongside.andThen (.throw f)) _ _ hscope.2

section

variable {Ready : Load σ₁ → Load σ₂ → Prop}
  (hfit : ∀ l₁ l₂, Q l₁ l₂ → Ready l₁ l₂ → Fit c s₁.acceptsArrays s₁.room l₁ l₂)
  (hnext : ∀ l₁ l₂ l₁' l₂', Q l₁ l₂ → Ready l₁ l₂ → Q l₁' l₂' →
    exec (Loader.advance ⟨c, s₁, own⟩) l₁ = (.ok true, l₁') →
    exec (Loader.advance ⟨c, s₂, own⟩) l₂ = (.ok true, l₂') → Ready l₁' l₂')

include hfit hnext

/-- Step by step, as long as both loads are ready for the next step. -/
theorem runFor_meets (n : Nat) (hl : Q l₁ l₂) (hready : Ready l₁ l₂) :
    Meets Q Eq (Loader.runFor ⟨c, s₁, own⟩ n) (Loader.runFor ⟨c, s₂, own⟩ n) l₁ l₂ := by
  have hstats : Alongside Q Eq (do return (← get).stats : Action σ₁ Stats)
      (do return (← get).stats : Action σ₂ Stats) :=
    .bind .get fun l₁ l₂ hl => .pure (h.read hl fun _ _ _ _ => rfl).symm
  induction n generalizing l₁ l₂ with
  | zero => exact hstats l₁ l₂ hl
  | succ n ih =>
    have hadvanced : Meets Q Eq (Loader.advance ⟨c, s₁, own⟩) (Loader.advance ⟨c, s₂, own⟩) l₁ l₂ :=
      h.advance_meets hl (hfit l₁ l₂ hl hready)
    obtain ⟨hagree, hrelated⟩ := hadvanced
    unfold Meets Loader.runFor
    rw [exec_bind, exec_bind]
    rcases hadvance₁ : exec (Loader.advance ⟨c, s₁, own⟩) l₁ with ⟨r₁, l₁'⟩
    rcases hadvance₂ : exec (Loader.advance ⟨c, s₂, own⟩) l₂ with ⟨r₂, l₂'⟩
    rw [hadvance₁, hadvance₂] at hagree hrelated
    cases hagree with
    | error f => exact ⟨.error f, hrelated⟩
    | @ok more _ hsame =>
      subst hsame
      cases more with
      | false => exact hstats l₁' l₂' hrelated
      | true => exact ih hrelated (hnext l₁ l₂ l₁' l₂' hl hready hrelated hadvance₁ hadvance₂)

/-- Two runs come to the same result or fault, and stay related. -/
theorem run_meets (hl : Q l₁ l₂) (hready : Ready l₁ l₂) :
    Meets Q Eq (Loader.run ⟨c, s₁, own⟩) (Loader.run ⟨c, s₂, own⟩) l₁ l₂ := by
  unfold Loader.run
  refine .get_bind ?_
  rw [h.rows_length hl]
  exact h.runFor_meets hfit hnext _ hl hready

end

end Accord

end RowIngest
