import RowIngest.Proofs.Finding
import RowIngest.Proofs.Refusing
import RowIngest.Proofs.Updating
/-!
Loads that change documents in place. The mapping makes updates of operators, and the writer tells
an update from a document by its keys alone; the two agree for every row. Main statement: all that
such a load asks to be written is the update of a row, for one match or for every match as the
settings say, and no change is refused for being a document that should go to every match.
-/
namespace RowIngest

open RowIngest.Action Rehearsal

variable {σ : Type} {p : Loader σ} {c : LoadConfig} {room : Room} {rows : List Value}
  {l l' : Load σ}

/-- An update as stores take them: something is changed, by known operators, and each of them has
new values for places, none of which is null. -/
structure Update.Applicable (u : Update) : Prop where
  nonempty : u ≠ []
  proper : u.Proper
  operators : ∀ entry ∈ u, entry.1 ∈ ["$set", "$inc", "$push"]
  values : ∀ entry ∈ u, ∀ change ∈ entry.2, change.2.isNull = false

theorem Modifier.text_mem (m : Modifier) : m.text ∈ ["$set", "$inc", "$push"] := by
  cases m <;> simp [text]

theorem Update.applicable_of_ofRow {fields : List FieldMapping} {row : Row} {d : Value}
    (h : ofRow fields row = .ok (some d)) : ∃ u : Update, u.Applicable ∧ d = u.toValue := by
  obtain ⟨u, hmade, hupdate⟩ := bind_eq_ok.mp h
  have hproper : u.Proper := foldlM_addChange_keeps
    (fun f _ v _ made hold => hold.put f.modifier.text f.dotted v) hmade .nil
  have hfrom : u.ComesFrom (changed fields) row :=
    foldlM_addChange_keeps (P := (ComesFrom · (changed fields) row))
      (fun f hf v hv made hold => hold.put hf hv) hmade (by simp [ComesFrom])
  have hsome : u ≠ [] := by
    rintro rfl
    cases hupdate
  simp only [List.isEmpty_iff, hsome, if_false] at hupdate
  refine ⟨u, ⟨hsome, hproper, ?_, ?_⟩, (Option.some.inj (Except.ok.inj hupdate)).symm⟩
  · intro entry hentry
    -- An operator is there for the sake of a field that is changed.
    obtain ⟨change, hchange⟩ := List.exists_mem_of_ne_nil _ (hproper.places entry hentry).1
    obtain ⟨f, -, -, hoperator, -⟩ := hfrom entry.1 entry.2 hentry change.1 change.2 hchange
    rw [← hoperator]
    exact f.modifier.text_mem
  · intro entry hentry change hchange
    obtain ⟨f, -, hgives, -⟩ := hfrom entry.1 entry.2 hentry change.1 change.2 hchange
    exact hgives.2

/-- The write that changes what the query of a row finds, by the update of the row. -/
def LoadConfig.Modifies (c : LoadConfig) (rows : List Value) (w : Write) : Prop :=
  ∃ row ∈ rows, ∃ (query : Value) (u : Update), c.mapQuery row = .ok (some query) ∧
    c.mapUpdate row = .ok (some u.toValue) ∧ u.Applicable ∧
    w = if c.multi then .updateMany query u.toValue true else .updateOne query u.toValue true

theorem Upsert.choose_of_update {query document : Value} {multi : Bool}
    (h : isModifierUpdate document = true) :
    choose query document multi =
      .ok (if multi then .updateMany query document true else .updateOne query document true) :=
  if_pos h

theorem LoadConfig.Sources.modifies {w : Write} (h : c.Sources room rows w)
    (hupsert : c.upsert = true)
    (hmodifier : c.modifierUpdate = true) : c.Modifies rows w := by
  obtain ⟨row, hmem, query, document, hquery, hchange, hw⟩ := h.mapped hupsert
  have hupdate : c.mapUpdate row = .ok (some document) := by
    simpa [mapChange, hmodifier] using hchange
  obtain ⟨read, -, hmade⟩ := bind_eq_ok.mp hupdate
  obtain ⟨u, happlicable, rfl⟩ := Update.applicable_of_ofRow hmade
  refine ⟨row, hmem, query, u, hquery, hupdate, happlicable, ?_⟩
  rw [Upsert.choose_of_update (Upsert.isModifierUpdate_of_ofRow hmade)] at hw
  exact (Except.ok.inj hw).symm

/-- What a change is refused with that would replace every match by one document. -/
abbrev Fault.unfit : Fault := .config .replacementOfMany

theorem LoadConfig.checkMapping_ne_unfit (c : LoadConfig) (acceptsArrays : Bool) :
    c.checkMapping acceptsArrays ≠ .error .replacementOfMany := by
  unfold checkMapping Mapping.validate
  dsimp only
  repeat' split
  all_goals nofun

theorem Loader.not_refuses_unfit (p : Loader σ) : ¬ p.Refuses .unfit := by
  rintro ⟨row, hrow⟩
  unfold inspect at hrow
  split at hrow
  · rename_i problem hmapping
    obtain rfl : problem = .replacementOfMany := Fault.config.inj (Except.error.inj hrow)
    exact p.config.checkMapping_ne_unfit _ hmapping
  · cases row with
    | obj row =>
      simp only [LoadConfig.inspectFields] at hrow
      split at hrow <;> cases hrow
    | _ => cases hrow

theorem LoadConfig.not_uncoverable_unfit (c : LoadConfig) : ¬ c.Uncoverable .unfit := by
  rintro ⟨spec, -, -, hfault⟩
  cases hfault

namespace Rehearsal

/-- Settings of a load that changes all documents that its queries find. -/
def broadcastSettings : Fields := filterSettings ++ [("multi", .bool true)]

/-- What the settings are read as. -/
def broadcastConfig : LoadConfig := { filterConfig with multi := true }

def broadcastLoader : Loader ScriptedStore where
  config := broadcastConfig
  surroundings := ScriptedStore.surroundings false
  ownScope := false

end Rehearsal

namespace Loader

variable {fs : Fields}

/-- No call refuses a change for being a document; it can only have been a request of the store
that ended with this fault. -/
theorem calls_of_unfit (hconfig : LoadConfig.ofFields fs = .ok p.config) (x : σ)
    (rows : List Value) (n : Nat) (hanswer : p.answer (Load.begin x rows) n = .error .unfit) :
    ∃ e ∈ (p.after (Load.begin x rows) (n + 1)).calls, e.fault? = some .unfit := by
  have hadvances := p.after_advances (Load.begin x rows) n
  rw [hanswer] at hadvances
  have hrunning : (p.after (Load.begin x rows) n).phase ≠ .terminated := by
    intro hterminated
    cases (eq_of_terminated hterminated hadvances).1
  have hbetween := between_after p x rows (true_of_running hrunning)
  rcases hadvances.blames hconfig hbetween with hexcused | huncoverable | ⟨hrefused, -⟩
  · exact hexcused.call rfl
  · exact absurd huncoverable p.config.not_uncoverable_unfit
  · exact absurd hrefused p.not_refuses_unfit

/-- A load that changes documents in place attempts no write but the updates of its rows, and it
never refuses to write one of them. -/
theorem run_modifies (hconfig : LoadConfig.ofFields fs = .ok p.config)
    (hupsert : p.config.upsert = true) (hmodifier : p.config.modifierUpdate = true) (x : σ)
    (rows : List Value) :
    (∀ w ∈ (exec (run p) (Load.begin x rows)).2.attempts, p.config.Modifies (offered rows) w) ∧
    (∀ n, ∀ w ∈ (p.after (Load.begin x rows) n).attempts,
      p.config.Modifies (offered rows) w) ∧
    (∀ row query document,
      p.config.delivery p.surroundings.room row = .ok (some (.change query document)) →
      ∃ w, Upsert.choose query document p.config.multi = .ok w) ∧
    (∀ n, p.answer (Load.begin x rows) n = .error .unfit →
      ∃ e ∈ (p.after (Load.begin x rows) (n + 1)).calls, e.fault? = some .unfit) ∧
    ((exec (run p) (Load.begin x rows)).1 = .error .unfit →
      ∃ e ∈ (exec (run p) (Load.begin x rows)).2.calls, e.fault? = some .unfit) := by
  refine ⟨fun w hw => ?_, fun n w hw => ?_, fun row query document hrow => ?_,
    calls_of_unfit hconfig x rows, fun hrun => ?_⟩
  · exact ((run_sourced p x rows).attempts w hw).modifies hupsert hmodifier
  · exact ((after_sourced p x rows n).1.attempts w hw).modifies hupsert hmodifier
  · exact LoadConfig.exists_choose hconfig hrow
  · obtain ⟨n, -, -, hended⟩ := run_eq p (Load.begin x rows)
    rw [hended] at hrun ⊢
    refine calls_of_unfit hconfig x rows n ?_
    rcases hanswer : p.answer (Load.begin x rows) n with f | more <;> rw [hanswer] at hrun
    · exact congrArg Except.error (Except.error.inj hrun)
    · cases hrun

/-- An update that goes to every match. -/
theorem run_modifies_every_match :
    LoadConfig.ofFields broadcastSettings = .ok broadcastLoader.config ∧
    broadcastLoader.config.upsert = true ∧ broadcastLoader.config.modifierUpdate = true ∧
    .updateMany (.obj [("id", .int 1)]) (.obj [("$set", .obj [("name", .str "Ada")])]) true ∈
      (exec (run broadcastLoader) (Load.begin willingStore
        [.obj (Query.filterRow (.int 1) [])])).2.attempts ∧
    broadcastConfig.Modifies (offered [.obj (Query.filterRow (.int 1) [])])
      (.updateMany (.obj [("id", .int 1)])
        (.obj [("$set", .obj [("name", .str "Ada")])]) true) := by
  have hconfig : LoadConfig.ofFields broadcastSettings = .ok broadcastLoader.config := rfl
  have hattempts : (exec (run broadcastLoader) (Load.begin willingStore
      [.obj (Query.filterRow (.int 1) [])])).2.attempts =
      [.updateMany (.obj [("id", .int 1)])
        (.obj [("$set", .obj [("name", .str "Ada")])]) true] := by
    with_unfolding_all rfl
  have hmem := List.mem_singleton_self (Write.updateMany (.obj [("id", .int 1)])
    (.obj [("$set", .obj [("name", .str "Ada")])]) true)
  rw [← hattempts] at hmem
  have hmodifies := run_modifies hconfig rfl rfl willingStore [.obj (Query.filterRow (.int 1) [])]
  exact ⟨hconfig, rfl, rfl, hmem, hmodifies.1 _ hmem⟩

end Loader

end RowIngest
