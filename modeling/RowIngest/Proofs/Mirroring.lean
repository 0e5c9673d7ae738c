import Mathlib.Data.List.Forall2
import RowIngest.Proofs.Accord
import RowIngest.Proofs.Counting
import RowIngest.Proofs.Hesitating
import RowIngest.Proofs.Rehearsing
import RowIngest.Proofs.Turns
import RowIngest.Proofs.Yielding
/-!
What is not mapped has no influence. Rows resemble each other if they have the same values for the
mapped fields; such rows are mapped alike, whatever other fields they have and in whatever order.
Main statement: two loads whose rows resemble each other, and of whose first rows the same mapped
fields are missing, do the same with a store and come to the same result or fault.
-/
namespace RowIngest

open RowIngest.Action

/-- Fields that are read one after the other come to the same if each of them does. -/
theorem foldlM_congr {α β : Type} {f g : β → α → Except Fault β} {items : List α}
    (h : ∀ i ∈ items, ∀ made, f made i = g made i) (made : β) :
    items.foldlM f made = items.foldlM g made := by
  induction items generalizing made with
  | nil => rfl
  | cons i rest ih =>
    rw [List.foldlM_cons, List.foldlM_cons, h i List.mem_cons_self]
    exact bind_congr fun made' => ih (fun j hj => h j (List.mem_cons_of_mem i hj)) made'

/-- Rows that have the same values for these fields. -/
def SameValues (fields : List FieldMapping) (a b : Row) : Prop :=
  ∀ f ∈ fields, f.value a = f.value b

namespace SameValues

variable {fields gs : List FieldMapping} {a b : Row} {room : Room} {shape : Shape}
  {plan : DocumentPlan}

theorem mono (h : SameValues fields a b) (hgs : gs ⊆ fields) : SameValues gs a b :=
  fun f hf => h f (hgs hf)

theorem addField (h : SameValues fields a b) (room : Room) : ∀ f ∈ fields, ∀ document,
    Document.addField room a document f = Document.addField room b document f := by
  intro f hf document
  unfold Document.addField
  rw [h f hf]

theorem query (h : SameValues fields a b) : Query.ofRow fields a = Query.ofRow fields b := by
  have hadd : ∀ f ∈ Query.matched fields, ∀ made,
      Query.addCondition a made f = Query.addCondition b made f := by
    intro f hf made
    unfold Query.addCondition
    rw [h f (List.mem_filter.mp hf).1]
  unfold Query.ofRow
  rw [foldlM_congr hadd]

theorem update (h : SameValues fields a b) : Update.ofRow fields a = Update.ofRow fields b := by
  have hadd : ∀ f ∈ Update.changed fields, ∀ made,
      Update.addChange a made f = Update.addChange b made f := by
    intro f hf made
    unfold Update.addChange
    rw [h f (List.mem_filter.mp hf).1]
  unfold Update.ofRow
  rw [foldlM_congr hadd]

/-- Documents are composed of the mapped values alone, unless the places of fields overlap. -/
theorem document (h : SameValues fields a b) (hvalid : Mapping.Unambiguous fields)
    (hplan : DocumentPlan.make room fields shape (suppliesDocument fields) = .ok plan) :
    plan.map a = plan.map b := by
  have hinsertable : SameValues (Mapping.insertable fields) a b :=
    h.mono (List.filter_subset_self _)
  cases hsupplied : suppliesDocument fields with
  | true =>
    rw [hsupplied] at hplan
    obtain ⟨root, hroot⟩ := hvalid.root_of_supplied hsupplied
    have hmem : root ∈ (Mapping.insertable fields).filter (·.isRoot) := by simp [hroot]
    rw [DocumentPlan.map_of_root hplan hroot, DocumentPlan.map_of_root hplan hroot,
      hinsertable root (List.mem_filter.mp hmem).1]
  | false =>
    rw [hsupplied] at hplan
    have hapart := hvalid.apart_of_not_supplied hsupplied
    rw [DocumentPlan.map_of_apart hplan hapart, DocumentPlan.map_of_apart hplan hapart,
      foldlM_congr (hinsertable.addField room)]

end SameValues

namespace LoadConfig

variable {c : LoadConfig} {room : Room} {v w : Value} {a b : Row} {rows rows' : List Value}
  {acceptsArrays : Bool}

/-- What a source hands over in two places is the same, or it is two rows with the same values for
the mapped fields. -/
inductive Resembles (c : LoadConfig) : Value → Value → Prop
  | refl (v : Value) : Resembles c v v
  | rows {a b : Row} (h : ∀ name ∈ c.fieldNames, a.value name = b.value name) :
      Resembles c (.obj a) (.obj b)

/-- Rows that resemble each other one by one. Of the first ones the same mapped fields are missing;
of the others a field may be missing that is null in the other row. -/
structure Matches (c : LoadConfig) (rows rows' : List Value) : Prop where
  resemble : List.Forall₂ c.Resembles rows rows'
  first : ∀ a b, rows.head? = some (.obj a) → rows'.head? = some (.obj b) →
    ∀ name ∈ c.fieldNames, name ∈ Fields.names a ↔ name ∈ Fields.names b

theorem sameValues_of_resembling (h : ∀ name ∈ c.fieldNames, a.value name = b.value name) :
    SameValues c.fields a b := by
  intro f hf
  unfold FieldMapping.value
  rw [h f.field (List.mem_map_of_mem hf)]

/-- Rows that resemble each other are mapped alike. -/
theorem Resembles.equates (h : c.Resembles v w) (hchecked : c.checkMapping acceptsArrays = .ok ()) :
    c.Equates room v w := by
  cases h with
  | refl v => exact .refl c room v
  | @rows a b hsame =>
    have hvalues := sameValues_of_resembling hsame
    obtain ⟨hvalid, plan, hplan⟩ := plan_of_checked hchecked
    refine ⟨?_, hvalues.query, hvalues.update⟩
    have hmapped (row : Row) : c.mapDocument room (.obj row) = plan.map row := by
      rw [mapDocument, hplan]
      rfl
    rw [hmapped, hmapped, hvalues.document hvalid hplan]

/-- The check of a row only asks which of the mapped fields it has. -/
theorem inspectFields_congr
    (h : ∀ name ∈ c.fieldNames, name ∈ Fields.names a ↔ name ∈ Fields.names b) :
    c.inspectFields (.obj a) = c.inspectFields (.obj b) := by
  have hmissing : c.missingFrom a = c.missingFrom b := by
    refine List.filter_congr fun name hname => ?_
    have hhas := h name (List.mem_eraseDups.mp hname)
    simpa using hhas
  simp only [inspectFields, hmissing]

theorem Matches.inspectFields (h : c.Matches (v :: rows) (w :: rows')) :
    c.inspectFields v = c.inspectFields w := by
  obtain ⟨hresemble, hfirst⟩ := h
  cases hresemble with
  | cons hvw _ =>
    cases hvw with
    | refl v => rfl
    | rows _ => exact inspectFields_congr (hfirst _ _ rfl rfl)

end LoadConfig

/-- The event without what is in a row that is pulled. -/
def Event.veiled : Event → Event
  | .pulled (some _) => .pulled (some .null)
  | e => e

namespace Event

theorem isCall_veiled (e : Event) : e.veiled.isCall = e.isCall := by
  cases e with
  | pulled row => cases row <;> rfl
  | _ => rfl

theorem pause?_veiled (e : Event) : e.veiled.pause? = e.pause? := by
  cases e with
  | pulled row => cases row <;> rfl
  | _ => rfl

theorem veiled_of_isCall {e : Event} (he : e.isCall = true) : e.veiled = e := by
  cases e with
  | pulled row => cases he
  | _ => rfl

theorem calls_veiled (es : List Event) :
    (es.map veiled).filter (·.isCall) = es.filter (·.isCall) := by
  induction es with
  | nil => rfl
  | cons e es ih =>
    rw [List.map_cons, List.filter_cons, List.filter_cons, isCall_veiled, ih]
    by_cases he : e.isCall = true
    · rw [if_pos he, if_pos he, veiled_of_isCall he]
    · rw [if_neg he, if_neg he]

theorem pauses_veiled (es : List Event) :
    (es.map veiled).filterMap (·.pause?) = es.filterMap (·.pause?) := by
  rw [List.filterMap_map]
  exact congrArg (es.filterMap ·) (funext pause?_veiled)

end Event

variable {σ : Type} {c : LoadConfig} {s : Surroundings σ} {l₁ l₂ l₁' l₂' : Load σ}
  {es : List Event}

/-- Two loads that differ by their rows, and by what is only said or marked. The rows resemble each
other. -/
structure Akin (c : LoadConfig) (l₁ l₂ : Load σ) : Prop where
  same : l₂ = { l₁ with rows := l₂.rows, history := l₂.history }
  rows : List.Forall₂ c.Resembles l₁.rows l₂.rows
  acts : l₂.acts.map Event.veiled = l₁.acts.map Event.veiled

namespace Akin

theorem begin {rows rows' : List Value} (h : List.Forall₂ c.Resembles rows rows') (x : σ) :
    Akin c (Load.begin x rows) (Load.begin x rows') :=
  ⟨rfl, h, rfl⟩

/-- What does not depend on rows and history is the same in akin loads. -/
theorem read {β : Type} (h : Akin c l₁ l₂) {f : Load σ → β}
    (hf : ∀ l rows a, f { l with rows := rows, history := a } = f l) : f l₂ = f l₁ := by
  rw [h.same, hf]

theorem surroundings_eq (h : Akin c l₁ l₂) : l₂.surroundings = l₁.surroundings :=
  h.read fun _ _ _ => rfl

/-- Akin loads are akin after passages of the same acts to the same surroundings. -/
theorem passes (h : Akin c l₁ l₂) (h₁ : l₁.Passes s es l₁') (h₂ : l₂.Passes s es l₂')
    (hstate : l₂'.surroundings = l₁'.surroundings) : Akin c l₁' l₂' := by
  refine ⟨?_, ?_, ?_⟩
  · obtain ⟨x, a, -, -⟩ := h₁
    obtain ⟨y, b, -, -⟩ := h₂
    obtain rfl : y = x := hstate
    rw [h.same]
  · rw [h₁.rows_eq, h₂.rows_eq]
    exact h.rows
  · rw [h₁.acts_eq, h₂.acts_eq, List.map_append, List.map_append, h.acts]

/-- What is changed in both loads alike, apart from surroundings, rows and history. -/
theorem update (h : Akin c l₁ l₂) {f g : Load σ → Load σ}
    (hsame : ∀ l x rows a, g { l with surroundings := x, rows := rows, history := a } =
      { f l with surroundings := x, rows := rows, history := a })
    (hkept : ∀ l, (f l).surroundings = l.surroundings ∧ (f l).rows = l.rows ∧
      (f l).history = l.history) : Akin c (f l₁) (g l₂) := by
  obtain ⟨hstate, hrows, hhistory⟩ := hkept l₁
  have hg : g l₂ = { f l₁ with rows := l₂.rows, history := l₂.history } := by
    calc g l₂
      _ = g { l₁ with
            surroundings := l₁.surroundings, rows := l₂.rows, history := l₂.history } :=
        congrArg g h.same
      _ = { f l₁ with
            surroundings := l₁.surroundings, rows := l₂.rows, history := l₂.history } :=
        hsame l₁ _ _ _
      _ = _ := by rw [← hstate]
  rw [hg]
  refine ⟨rfl, ?_, ?_⟩
  · rw [hrows]
    exact h.rows
  · have hacts : (f l₁).acts = l₁.acts := by rw [Load.acts, hhistory, Load.acts]
    rw [hacts]
    exact h.acts

theorem record (h : Akin c l₁ l₂) (e : Event) : Akin c (l₁.record e) (l₂.record e) := by
  refine ⟨?_, h.rows, ?_⟩
  · change { l₂ with history := l₂.history.push e } = _
    rw [h.same]
    rfl
  · rw [Load.acts_record, Load.acts_record, List.map_append, List.map_append, h.acts]

theorem move (h : Akin c l₁ l₂) (x : σ) :
    Akin c { l₁ with surroundings := x } { l₂ with surroundings := x } := by
  refine ⟨?_, h.rows, h.acts⟩
  rw [h.same]

/-- The rows that are pulled resemble each other. -/
theorem pull (h : Akin c l₁ l₂) :
    Akin c (exec Action.pull l₁).2 (exec Action.pull l₂).2 := by
  have hpulled {row row' : Option Value} {rest rest' : List Value}
      (hrow : Event.veiled (.pulled row) = Event.veiled (.pulled row'))
      (hrest : List.Forall₂ c.Resembles rest rest') :
      Akin c { l₁.record (.pulled row) with rows := rest }
        { l₂.record (.pulled row') with rows := rest' } := by
    refine ⟨?_, hrest, ?_⟩
    · rw [h.same]
      rfl
    · change (l₂.record (.pulled row')).acts.map Event.veiled =
        (l₁.record (.pulled row)).acts.map Event.veiled
      simp [Event.isAct, h.acts, hrow]
  have hrows := h.rows
  simp only [Action.pull, exec_modifyGet]
  cases hrows₁ : l₁.rows with
  | nil =>
    rw [hrows₁, List.forall₂_nil_left_iff] at hrows
    rw [hrows]
    exact h.record _
  | cons v rest =>
    rw [hrows₁] at hrows
    obtain ⟨w, rest', hvw, hrest, hrows₂⟩ := List.forall₂_cons_left_iff.mp hrows
    rw [hrows₂]
    cases hvw with
    | rows _ => exact hpulled rfl hrest
    | refl v => cases v <;> exact hpulled rfl hrest

/-- What is done and where it leads may depend on the surroundings, but on nothing else. -/
theorem alongside_of_passes {α : Type} {x : Action σ α} (result : σ → Except Fault α)
    (acts : σ → List Event) (next : σ → σ)
    (hx : ∀ l, (exec x l).1 = result l.surroundings ∧
      l.Passes s (acts l.surroundings) (exec x l).2 ∧
      (exec x l).2.surroundings = next l.surroundings) : Alongside (Akin c) Eq x x := by
  intro l₁ l₂ hl
  obtain ⟨hresult₁, hpass₁, hstate₁⟩ := hx l₁
  obtain ⟨hresult₂, hpass₂, hstate₂⟩ := hx l₂
  rw [hl.surroundings_eq] at hresult₂ hpass₂ hstate₂
  rw [hresult₁, hresult₂]
  exact ⟨.refl _, hl.passes hpass₁ hpass₂ (hstate₂.trans hstate₁.symm)⟩

/-- A request that is made in both loads has the same reply. -/
theorem receive_alongside {α : Type} {ask : σ → Reply σ α} {event : Except Fault α → Event}
    (hact : ∀ r, (event r).isAct = true) (hmove : ∀ x, s.Moves x (ask x).state) :
    Alongside (Akin c) Eq (receive ask event) (receive ask event) := by
  refine alongside_of_passes (s := s) (fun x => (ask x).result)
    (fun x => [event (ask x).result]) (fun x => (ask x).state) fun l => ?_
  obtain ⟨hresult, hpass⟩ := receive_passes hact hmove (l := l) rfl
  rw [hresult] at hpass
  exact ⟨hresult, hpass, surroundings_receive ask event l⟩

theorem attempt_alongside (context : Fields) (w : Write) :
    Alongside (Akin c) Eq (Retry.attempt s context w) (Retry.attempt s context w) := by
  refine alongside_of_passes (s := s) (fun x => Retry.verdict w (s.write w x).result)
    (fun x => [.wrote w (s.write w x).result]) (fun x => (s.write w x).state) fun l => ?_
  obtain ⟨_, rfl, hverdict, hpass, hstate⟩ := Retry.attempt_passes (l := l) (s := s) rfl
  exact ⟨hverdict, hpass, hstate⟩

theorem log_alongside (level : Log.Level) (logger : Log.Logger) (message : String)
    (extra : Fields) :
    Alongside (Akin c) Eq (log level logger message extra : Action σ Unit)
      (log level logger message extra) :=
  .modify fun _ _ hl => hl.record _

theorem isCancelled_alongside :
    Alongside (Akin c) Eq (isCancelled s) (isCancelled s) := by
  intro l₁ l₂ hl
  rw [exec_isCancelled, exec_isCancelled, hl.surroundings_eq]
  exact ⟨.refl _, hl.move _⟩

theorem pause_alongside (p : Retry.Policy) (context : Fields) (w : Write) (made : Nat)
    (failure : Fault) :
    Alongside (Akin c) Eq (Retry.pause s p context w made failure)
      (Retry.pause s p context w made failure) := by
  unfold Retry.pause Action.sleep
  refine .ite Iff.rfl (.andThen (log_alongside _ _ _ _) (.ite Iff.rfl ?_ (.throw _))) (.pure rfl)
  refine .modify fun l₁ l₂ hl => ?_
  rw [hl.surroundings_eq]
  exact (hl.record _).move _

theorem giveUp_alongside (p : Retry.Policy) (context : Fields) (w : Write) (made : Nat)
    (last : Option Fault) :
    Alongside (Akin c) Eq (Retry.giveUp s p context w made last)
      (Retry.giveUp s p context w made last) := by
  unfold Retry.giveUp
  cases last with
  | none => exact .pure rfl
  | some failure =>
    refine .bind isCancelled_alongside ?_
    rintro asked _ rfl
    refine .andThen (log_alongside _ _ _ _) (.bind isCancelled_alongside ?_)
    rintro inTime _ rfl
    refine .bind isCancelled_alongside ?_
    rintro cancelled _ rfl
    exact .throw _

/-- A write is attempted in both loads as often. -/
theorem attempts_alongside (p : Retry.Policy) (context : Fields) (w : Write) (left made : Nat)
    (last : Option Fault) :
    Alongside (Akin c) Eq (Retry.attempts s p context w left made last)
      (Retry.attempts s p context w left made last) := by
  induction left generalizing made last with
  | zero => exact giveUp_alongside p context w made last
  | succ left ih =>
    unfold Retry.attempts
    refine .bind isCancelled_alongside ?_
    rintro stop _ rfl
    refine .ite Iff.rfl (giveUp_alongside p context w made last)
      (.bind (attempt_alongside context w) ?_)
    rintro (failure | outcome) _ rfl
    · exact .andThen (pause_alongside p context w (made + 1) failure) (ih (made + 1) (some failure))
    · exact .pure rfl

/-- Akin loads stay akin, whatever is asked of the surroundings that they have in common. -/
theorem accord (c : LoadConfig) (s : Surroundings σ) : Accord c s s (Akin c) where
  arrays := rfl
  room := rfl
  same {l₁ l₂} hl := by
    rw [hl.surroundings_eq]
    exact hl.same
  rows_length hl := hl.rows.length_eq.symm
  update hsame hkept _ _ hl := hl.update hsame hkept
  noted_left he _ _ hl := hl.passes (Load.passes_remark s _ he) (.refl s _) hl.surroundings_eq
  noted_right he _ _ hl := hl.passes (.refl s _) (Load.passes_remark s _ he) hl.surroundings_eq
  processed hl := hl.record .processed
  completed hl := hl.record .completed
  pull hl := hl.pull
  isCancelled := isCancelled_alongside
  command k := receive_alongside (fun _ => rfl) (.command k)
  createIndex q := receive_alongside (fun _ => rfl) (.createIndex q)
  write context w := (attempts_alongside c.policy context w c.policy.attempts 0 none).mono
    fun _ _ hsame => congrArg Option.isSome hsame

end Akin

/-- Akin loads of these rows between two steps, as long as neither has come to its end: they have
not begun, or the mapping has passed its check. -/
def Akin.Underway (c : LoadConfig) (acceptsArrays : Bool) (rows rows' : List Value)
    (l₁ l₂ : Load σ) : Prop :=
  (l₁.phase = .uninitialized ∧ l₁.rows = rows ∧ l₂.rows = rows') ∨
    (l₁.phase = .active ∧ c.checkMapping acceptsArrays = .ok ())

namespace Akin

variable {rows rows' : List Value} {own : Bool}

/-- Rows that resemble each other fit, the first ones included. -/
theorem fit (hmatches : c.Matches rows rows') (hl : Akin c l₁ l₂)
    (hunderway : Underway c s.acceptsArrays rows rows' l₁ l₂) :
    Fit c s.acceptsArrays s.room l₁ l₂ := by
  have hrows := hl.rows
  unfold Fit
  cases hrows₁ : l₁.rows with
  | nil =>
    rw [hrows₁, List.forall₂_nil_left_iff] at hrows
    rw [hrows]
    exact .none
  | cons v rest =>
    rw [hrows₁] at hrows
    obtain ⟨w, rest', hvw, -, hrows₂⟩ := List.forall₂_cons_left_iff.mp hrows
    rw [hrows₂]
    have hinspect : l₁.phase = .uninitialized → c.inspectFields v = c.inspectFields w := by
      intro hfresh
      rcases hunderway with ⟨-, rfl, rfl⟩ | ⟨hactive, -⟩
      · rw [hrows₁, hrows₂] at hmatches
        exact hmatches.inspectFields
      · rw [hactive] at hfresh
        cases hfresh
    have hequates : l₁.phase ≠ .uninitialized ∨ c.checkMapping s.acceptsArrays = .ok () →
        c.Equates s.room v w := by
      intro hopen
      rcases hunderway with ⟨hfresh, -⟩ | ⟨-, hchecked⟩
      · exact hvw.equates (hopen.resolve_left fun hbegun => hbegun hfresh)
      · exact hvw.equates hchecked
    by_cases hv : v = .null
    · subst hv
      cases hvw
      exact .none
    · have hw : w ≠ .null := by
        cases hvw with
        | refl _ => exact hv
        | rows _ => nofun
      rw [offered_cons hv, offered_cons hw]
      exact .some ⟨hinspect, hequates⟩

/-- A load that goes on is active, with a mapping that has passed its check. -/
theorem Underway.next (h : Underway c s.acceptsArrays rows rows' l₁ l₂)
    (hadvance : exec (Loader.advance ⟨c, s, own⟩) l₁ = (.ok true, l₁')) (l₂' : Load σ) :
    Underway c s.acceptsArrays rows rows' l₁' l₂' := by
  have hadvances := Loader.advance_advances hadvance
  right
  rcases h with ⟨hfresh, -⟩ | ⟨hactive, hchecked⟩
  · exact ⟨hadvances.phase_active (Or.inl hfresh), hadvances.checked hfresh⟩
  · exact ⟨hadvances.phase_active (Or.inr hactive), hchecked⟩

end Akin

/-- The second load has done what the first one has done, with the same arguments and in the same
order; only what was in the rows that were pulled may differ. -/
structure Mirrors (l₁ l₂ : Load σ) : Prop where
  surroundings : l₂.surroundings = l₁.surroundings
  stats : l₂.stats = l₁.stats
  rowsProcessed : l₂.rowsProcessed = l₁.rowsProcessed
  complete : l₂.complete = l₁.complete
  calls : l₂.calls = l₁.calls
  pauses : l₂.pauses = l₁.pauses
  acts : l₂.acts.map Event.veiled = l₁.acts.map Event.veiled

theorem Akin.mirrors (h : Akin c l₁ l₂) : Mirrors l₁ l₂ where
  surroundings := h.surroundings_eq
  stats := h.read fun _ _ _ => rfl
  rowsProcessed := h.read fun _ _ _ => rfl
  complete := h.read fun _ _ _ => rfl
  calls := by
    rw [Load.calls_eq, Load.calls_eq, ← Event.calls_veiled, h.acts, Event.calls_veiled]
  pauses := by
    rw [Load.pauses, Load.pauses, ← Event.pauses_veiled, h.acts, Event.pauses_veiled]
  acts := h.acts

namespace Loader

/-- Two runs with the same surroundings come to the same result or fault, and do the same, if their
rows have the same values for the mapped fields and of their first rows the same mapped fields are
missing. Neither other fields nor the order of fields have any effect. -/
theorem run_mirrors (p : Loader σ) (x : σ) {rows rows' : List Value}
    (h : p.config.Matches rows rows') :
    (exec (run p) (Load.begin x rows')).1 = (exec (run p) (Load.begin x rows)).1 ∧
      Mirrors (exec (run p) (Load.begin x rows)).2 (exec (run p) (Load.begin x rows')).2 := by
  obtain ⟨c, s, own⟩ := p
  have hfit : ∀ l₁ l₂ : Load σ, Akin c l₁ l₂ →
      Akin.Underway c s.acceptsArrays rows rows' l₁ l₂ →
        Fit c s.acceptsArrays s.room l₁ l₂ :=
    fun _ _ hl hunderway => hl.fit h hunderway
  obtain ⟨hagree, hakin⟩ := (Akin.accord c s).run_meets hfit
    (fun _ _ _ l₂' _ hunderway _ hadvance _ => hunderway.next hadvance l₂')
    (Akin.begin h.resemble x) (Or.inl ⟨rfl, rfl, rfl⟩)
  exact ⟨hagree.eq.symm, hakin.mirrors⟩

open Rehearsal

/-- A row with its fields in another order, and with one that is not mapped. -/
def reorderedRow (document : Value) : Value :=
  .obj [("note", .str "unused"), ("doc", document), ("id", .int 1)]

theorem run_mirrors_reordered_row :
    replacementLoader.config.Matches [documentRow (.obj [("total", .int 5)])]
      [reorderedRow (.obj [("total", .int 5)])] ∧
    (exec (run replacementLoader)
        (Load.begin willingStore [reorderedRow (.obj [("total", .int 5)])])).1 =
      (exec (run replacementLoader)
        (Load.begin willingStore [documentRow (.obj [("total", .int 5)])])).1 ∧
    Mirrors
      (exec (run replacementLoader)
        (Load.begin willingStore [documentRow (.obj [("total", .int 5)])])).2
      (exec (run replacementLoader)
        (Load.begin willingStore [reorderedRow (.obj [("total", .int 5)])])).2 := by
  have hnames : replacementLoader.config.fieldNames = ["id", "doc"] := rfl
  have hmatches : replacementLoader.config.Matches [documentRow (.obj [("total", .int 5)])]
      [reorderedRow (.obj [("total", .int 5)])] := by
    refine ⟨.cons (.rows ?_) .nil, ?_⟩
    · rw [hnames]
      simp [Row.value, Fields.get?]
    · rintro _ _ ⟨rfl⟩ ⟨rfl⟩
      rw [hnames]
      simp [Fields.names]
  exact ⟨hmatches, run_mirrors replacementLoader willingStore hmatches⟩

end Loader

end RowIngest
