import RowIngest.Proofs.Decoding
import RowIngest.Settings
/-!
What reading a mapping can end in. A check finds issues with whatever it is given, and a fault ends
it only at a path that is malformed; a path that leads to no file is a problem of the configuration
as well. Main statement: whatever is at the path of a mapping, what comes of it is a mapping or a
problem of the configuration, exactly if the path can be asked for and what is there is UTF-8.
-/
namespace RowIngest

variable {allowed : Fault → Prop} {source : Check.Source}

namespace Checked

variable {α β : Type} {x : Checked α} {check : Value → Checked α}

/-- A fault that ends a check is one of those that are allowed. -/
def EndsIn (allowed : Fault → Prop) : Checked α → Prop
  | .fault f => allowed f
  | _ => True

theorem EndsIn.valid (a : α) : EndsIn allowed (.valid a) := trivial

theorem EndsIn.issue (c : Check.Complaint) : EndsIn allowed (.issue c : Checked α) := trivial

theorem EndsIn.ite {p : Prop} [Decidable p] {y : Checked α} (hx : EndsIn allowed x)
    (hy : EndsIn allowed y) : EndsIn allowed (if p then x else y) := by
  split
  · exact hx
  · exact hy

/-- A value that was looked up, or an issue where there is none. -/
theorem EndsIn.ofOption (a? : Option α) (c : Check.Complaint) :
    EndsIn allowed ((a?.map Checked.valid).getD (.issue c)) := by
  cases a? <;> trivial

theorem EndsIn.map (h : EndsIn allowed x) (g : α → β) : EndsIn allowed (g <$> x) := by
  cases x with
  | fault f => exact h
  | _ => trivial

theorem EndsIn.seq {g : Checked (α → β)} (hg : EndsIn allowed g) (h : EndsIn allowed x) :
    EndsIn allowed (g <*> x) := by
  cases g with
  | fault f => exact hg
  | valid g => exact h.map g
  | issues is =>
    cases x with
    | fault f => exact h
    | _ => trivial

theorem EndsIn.andThen {next : α → Checked β} (h : EndsIn allowed x)
    (hnext : ∀ a, EndsIn allowed (next a)) : EndsIn allowed (x.andThen next) := by
  cases x with
  | fault f => exact h
  | valid a => exact hnext a
  | issues is => trivial

theorem EndsIn.within (h : EndsIn allowed x) (place : Check.Place) :
    EndsIn allowed (x.within place) := by
  cases x with
  | fault f => exact h
  | _ => trivial

theorem EndsIn.items (h : ∀ v, EndsIn allowed (check v)) (n : Nat) (vs : List Value) :
    EndsIn allowed (items check n vs) := by
  induction vs generalizing n with
  | nil => trivial
  | cons v vs ih => exact (((h v).within (.item n)).map List.cons).seq (ih (n + 1))

end Checked

open Checked

namespace Check

variable {α : Type} {check : Value → Checked α}

theorem endsIn_required (fs : Fields) (name : String) (h : ∀ v, EndsIn allowed (check v)) :
    EndsIn allowed (required fs name check) := by
  refine EndsIn.within ?_ _
  cases Fields.get? fs name with
  | none => trivial
  | some v => exact h v

theorem endsIn_optional (fs : Fields) (name : String) (fallback : α)
    (h : ∀ v, EndsIn allowed (check v)) : EndsIn allowed (optional fs name fallback check) := by
  refine EndsIn.within ?_ _
  cases Fields.get? fs name with
  | none => trivial
  | some v => exact h v

theorem endsIn_model (name : String) (v : Value) : EndsIn allowed (model source name v) := by
  cases v <;> trivial

theorem endsIn_list (h : ∀ v, EndsIn allowed (check v)) (v : Value) :
    EndsIn allowed (list source check v) := by
  cases v with
  | list vs => exact .items h 0 vs
  | _ => trivial

theorem endsIn_nonemptyList (h : ∀ v, EndsIn allowed (check v)) (v : Value) :
    EndsIn allowed (nonemptyList source check v) :=
  (endsIn_list h v).andThen fun as => .ite (.issue _) (.valid as)

theorem endsIn_string (v : Value) : EndsIn allowed (string v) := by
  cases v <;> trivial

theorem endsIn_nonemptyString (v : Value) : EndsIn allowed (nonemptyString v) :=
  (endsIn_string v).andThen fun s => .ite (.issue _) (.valid s)

theorem endsIn_among (choices : List (String × α)) (shown : String) (v : Value) :
    EndsIn allowed (among choices shown v) := by
  cases v with
  | str s => exact .ofOption _ _
  | _ => trivial

theorem endsIn_boolOfInt (n : Int) : EndsIn allowed (boolOfInt n) :=
  .ite (.valid _) (.ite (.valid _) (.issue _))

theorem endsIn_bool (v : Value) : EndsIn allowed (bool v) := by
  cases v with
  | str s => exact .ofOption _ _
  | int n => exact .ite (endsIn_boolOfInt n) (.issue _)
  | float x =>
    simp only [bool]
    split
    · exact .ite (endsIn_boolOfInt _) (.issue _)
    · trivial
  | _ => trivial

end Check

/-- A path of a mapping that is malformed. -/
def IsMalformedPath (f : Fault) : Prop := ∃ path part, f = .config (.malformedPath path part)

theorem FieldMapping.endsIn_checkTarget (v : Value) :
    EndsIn IsMalformedPath (FieldMapping.checkTarget v) := by
  refine (Check.endsIn_string v).andThen fun text => ?_
  simp only
  split
  · trivial
  · exact ⟨_, _, rfl⟩
  · trivial

theorem FieldMapping.endsIn_check (v : Value) :
    EndsIn IsMalformedPath (FieldMapping.check source v) :=
  (Check.endsIn_model _ v).andThen fun fs =>
    ((Check.endsIn_required fs _ Check.endsIn_nonemptyString).map _)
      |>.seq (Check.endsIn_optional fs _ _ endsIn_checkTarget)
      |>.seq (Check.endsIn_optional fs _ _ Check.endsIn_bool)
      |>.seq (Check.endsIn_optional fs _ _ Check.endsIn_bool)
      |>.seq (Check.endsIn_optional fs _ _ Check.endsIn_bool)
      |>.seq (Check.endsIn_optional fs _ _ Check.endsIn_bool)
      |>.seq (Check.endsIn_optional fs _ _ (Check.endsIn_among _ _))

namespace IndexChange

theorem endsIn_checkDirection (v : Value) : EndsIn allowed (checkDirection v) := by
  simp only [checkDirection]
  split <;> trivial

theorem endsIn_checkKey (v : Value) : EndsIn allowed (checkKey source v) :=
  (Check.endsIn_model _ v).andThen fun fs =>
    ((Check.endsIn_required fs _ Check.endsIn_nonemptyString).map _)
      |>.seq (Check.endsIn_optional fs _ _ endsIn_checkDirection)

theorem endsIn_check (v : Value) : EndsIn allowed (IndexChange.check source v) :=
  (Check.endsIn_model _ v).andThen fun fs =>
    ((Check.endsIn_required fs _ (Check.endsIn_nonemptyList endsIn_checkKey)).map _)
      |>.seq (Check.endsIn_optional fs _ _ Check.endsIn_bool)
      |>.seq (Check.endsIn_optional fs _ _ Check.endsIn_bool)
      |>.seq (Check.endsIn_optional fs _ _ Check.endsIn_bool)

end IndexChange

/-- The text of a mapping is never at fault but for a malformed path in it. -/
theorem Mapping.endsIn_ofText (text : String) : EndsIn IsMalformedPath (Mapping.ofText text) := by
  unfold Mapping.ofText
  split
  · exact (Check.endsIn_model _ _).andThen fun fs =>
      ((Check.endsIn_optional fs _ _ (Check.endsIn_list FieldMapping.endsIn_check)).map _)
        |>.seq (Check.endsIn_optional fs _ _ (Check.endsIn_list IndexChange.endsIn_check))
  · trivial

variable {path : FilePath} {found : Files.Found} {bytes : List UInt8} {e : ForeignError}
  {s : Settings}

namespace Files

/-- What there is at a path can be asked for, and is UTF-8 if it is a file. -/
def Legible (path : FilePath) (found : Found) : Prop :=
  path.text.contains (Char.ofNat 0) = false ∧
    ∀ bytes, found = .file bytes → bytes.toByteArray.IsValidUTF8

theorem textOf_of_utf8 (h : bytes.toByteArray.IsValidUTF8) : ∃ text, textOf bytes = .ok text := by
  obtain ⟨cs, hdecode⟩ := Text.Utf8.decode_isOk_iff.mpr h
  refine ⟨String.ofList (Text.unifyLineEnds cs), ?_⟩
  simp only [textOf, textIn, Text.Charset.decode, Text.Charset.decodeUtf8, hdecode]
  rfl

theorem textOf_of_not_utf8 (h : ¬ bytes.toByteArray.IsValidUTF8) :
    ∃ e, textOf bytes = .error e ∧ e.kind = .undecodable := by
  cases hdecode : Text.Utf8.decode bytes with
  | ok cs => exact absurd (Text.Utf8.decode_isOk_iff.mp ⟨cs, hdecode⟩) h
  | error e =>
    refine ⟨⟨.undecodable, e.message⟩, ?_, rfl⟩
    simp only [textOf, textIn, Text.Charset.decode, Text.Charset.decodeUtf8, hdecode]
    rfl

theorem readFound_of_null (hnull : path.text.contains (Char.ofNat 0) = true) :
    readFound path found = .error ⟨.wrongValue, "embedded null byte"⟩ := by
  unfold readFound
  rw [if_pos hnull]

theorem readFound_file (hpath : path.text.contains (Char.ofNat 0) = false) :
    readFound path (.file bytes) = .ok bytes := by
  unfold readFound
  rw [hpath]
  rfl

theorem readFound_no_file (hpath : path.text.contains (Char.ofNat 0) = false)
    (hfile : ∀ bytes, found ≠ .file bytes) :
    ∃ e, readFound path found = .error e ∧ e.kind.isReading = true := by
  unfold readFound
  rw [hpath]
  cases found with
  | file bytes => exact absurd rfl (hfile bytes)
  | _ => exact ⟨_, rfl, rfl⟩

end Files

namespace Settings

/-- A mapping or a problem of the configuration, and nothing else. -/
def Reported (result : Except Fault Mapping) : Prop :=
  (∃ m, result = .ok m) ∨ ∃ problem, result = .error (.config problem)

theorem not_reported_foreign : ¬ Reported (.error (.foreign e)) := by
  rintro (⟨m, hm⟩ | ⟨problem, hproblem⟩)
  · cases hm
  · cases hproblem

theorem mappingFrom_error : mappingFrom path (.error e) =
    .error (if e.kind.isReading then .config (.unreadableMapping path.text e) else .foreign e) :=
  rfl

theorem mappingFrom_of_no_text (h : Files.textOf bytes = .error e) :
    mappingFrom path (.ok bytes) = .error (.foreign e) := by
  change ((Files.textOf bytes).mapError Fault.foreign >>= _) = _
  rw [h]
  rfl

theorem reported_of_text {text : String} (h : Files.textOf bytes = .ok text) :
    Reported (mappingFrom path (.ok bytes)) := by
  have hends : EndsIn IsMalformedPath (Mapping.ofText text) := Mapping.endsIn_ofText text
  change Reported ((Files.textOf bytes).mapError Fault.foreign >>= _)
  rw [h]
  change Reported ((Except.ok text : Except Fault String) >>= _)
  simp only [bind, Except.bind]
  cases hcheck : Mapping.ofText text with
  | valid m => exact .inl ⟨m, rfl⟩
  | issues is => exact .inr ⟨_, rfl⟩
  | fault f =>
    rw [hcheck] at hends
    obtain ⟨written, part, rfl⟩ := hends
    exact .inr ⟨_, rfl⟩

theorem reported_of_legible (h : Files.Legible path found) :
    Reported (mappingFrom path (Files.readFound path found)) := by
  by_cases hfile : ∃ bytes, found = .file bytes
  · obtain ⟨bytes, rfl⟩ := hfile
    obtain ⟨text, htext⟩ := Files.textOf_of_utf8 (h.2 bytes rfl)
    rw [Files.readFound_file h.1]
    exact reported_of_text htext
  · obtain ⟨e, hread, hreading⟩ := Files.readFound_no_file h.1 (not_exists.mp hfile)
    rw [hread, mappingFrom_error, if_pos hreading]
    exact .inr ⟨_, rfl⟩

/-- What cannot be asked for or decoded lets an error through that is none of the configuration. -/
theorem escapes_of_not_legible (h : ¬ Files.Legible path found) :
    ∃ e, mappingFrom path (Files.readFound path found) = .error (.foreign e) ∧
      (e.kind = .wrongValue ∨ e.kind = .undecodable) := by
  cases hpath : path.text.contains (Char.ofNat 0) with
  | true =>
    rw [Files.readFound_of_null hpath]
    exact ⟨_, rfl, .inl rfl⟩
  | false =>
    obtain ⟨bytes, rfl, hinvalid⟩ : ∃ bytes, found = .file bytes ∧
        ¬ bytes.toByteArray.IsValidUTF8 := by
      simpa [Files.Legible, hpath] using h
    obtain ⟨e, htext, hkind⟩ := Files.textOf_of_not_utf8 hinvalid
    rw [Files.readFound_file hpath]
    exact ⟨e, mappingFrom_of_no_text htext, .inr hkind⟩

theorem reported_iff_legible : Reported (mappingFrom path (Files.readFound path found)) ↔
    Files.Legible path found := by
  constructor
  · intro hreported
    refine Classical.byContradiction fun hnot => ?_
    obtain ⟨e, hescapes, -⟩ := escapes_of_not_legible hnot
    rw [hescapes] at hreported
    exact not_reported_foreign hreported
  · exact reported_of_legible

theorem readMapping_of_path (hset : s.mappingFile = some path) (files : Files) :
    s.readMapping files = mappingFrom path (Files.readFound path (files.find path)) := by
  simp only [readMapping, hset]
  rfl

/-- Whatever a working directory holds, and whatever else may be at the path, what comes of it is a
mapping or a problem of the configuration exactly if it is legible. -/
theorem readMapping_reports_iff (hset : s.mappingFile = some path) :
    (∀ files, Reported (s.readMapping files) ↔ Files.Legible path (files.find path)) ∧
      ∀ found, Reported (mappingFrom path (Files.readFound path found)) ↔
        Files.Legible path found := by
  refine ⟨fun files => ?_, fun found => reported_iff_legible⟩
  rw [readMapping_of_path hset, reported_iff_legible]

/-- Settings that are left at their defaults, but for the mapping. -/
def naming (path : FilePath) : Settings where
  appName := "docloader"
  purpose := .development
  debug := false
  version := "1.0.0"
  host := "0.0.0.0"
  port := 8000
  storeHosts := "localhost"
  storePort := 27017
  userName := ""
  password := ""
  authDatabase := "admin"
  database := ""
  collection := ""
  connectTimeout := 10000
  batchSize := LoadConfig.defaultBatchSize
  retries := LoadConfig.defaultRetries
  retryDelay := LoadConfig.defaultRetryDelay
  truncate := false
  upsert := false
  modifierUpdate := false
  multi := false
  mappingFile := some path
  logLevel := "INFO"
  logFormat := .json
  allowedOrigins := "http://localhost:3000,http://localhost:8000"

/-- Where nothing is set, every setting is at its default. -/
theorem checkFields_nil (path : FilePath) :
    checkFields [] = .valid { naming path with mappingFile := none } := rfl

def mappingPath : FilePath := ⟨"", ["m.json"]⟩

theorem mappingPath_contains_null : mappingPath.text.contains (Char.ofNat 0) = false := by
  simp [mappingPath, FilePath.text]

theorem find_mappingPath (bytes : List UInt8) :
    Files.find [(["m.json"], bytes)] mappingPath = .file bytes := by
  have htext : mappingPath.text = "m.json" := by simp [mappingPath, FilePath.text]
  have hpath : ¬ mappingPath.text.utf8ByteSize > Files.pathLimit := by
    rw [htext]
    decide
  have hname : ¬ "m.json".utf8ByteSize > Files.nameLimit := by decide
  have hroot : mappingPath.root.isEmpty = true := rfl
  rw [Files.find, if_neg hpath, if_pos hroot]
  simp [mappingPath, Files.follow, Files.bytesAt?, hname]

/-- An empty object is a mapping; half of a character lets an error through. -/
theorem readMapping_reports_iff_braces :
    (naming mappingPath).mappingFile = some mappingPath ∧
      Reported ((naming mappingPath).readMapping [(["m.json"], [0x7B, 0x7D])]) ∧
      ¬ Reported ((naming mappingPath).readMapping [(["m.json"], [0xC3, 0x28])]) := by
  have hset : (naming mappingPath).mappingFile = some mappingPath := rfl
  have hbraces : [0x7B, 0x7D].toByteArray.IsValidUTF8 :=
    Text.Utf8.decode_isOk_iff.mp ⟨['{', '}'], rfl⟩
  have hhalf : ¬ [0xC3, 0x28].toByteArray.IsValidUTF8 := fun h => by
    obtain ⟨cs, hdecode⟩ := Text.Utf8.decode_isOk_iff.mpr h
    cases hdecode
  refine ⟨hset, ((readMapping_reports_iff hset).1 _).mpr ?_, fun h => ?_⟩
  · rw [find_mappingPath]
    refine ⟨mappingPath_contains_null, fun bytes hbytes => ?_⟩
    cases hbytes
    exact hbraces
  · have hlegible := ((readMapping_reports_iff hset).1 _).mp h
    rw [find_mappingPath] at hlegible
    exact hhalf (hlegible.2 _ rfl)

/-- A byte that begins no character, and the error that it lets through. -/
theorem undecodable_mapping_escapes :
    (naming mappingPath).mappingFile = some mappingPath ∧
      (naming mappingPath).readMapping [(["m.json"], [0xFF])] = .error (.foreign ⟨.undecodable,
        "'utf-8' codec can't decode byte 0xff in position 0: invalid start byte"⟩) ∧
      ¬ Reported ((naming mappingPath).readMapping [(["m.json"], [0xFF])]) := by
  have hescapes : (naming mappingPath).readMapping [(["m.json"], [0xFF])] =
      .error (.foreign ⟨.undecodable,
        "'utf-8' codec can't decode byte 0xff in position 0: invalid start byte"⟩) := by
    rw [readMapping_of_path rfl, find_mappingPath, Files.readFound_file mappingPath_contains_null]
    exact mappingFrom_of_no_text rfl
  refine ⟨rfl, hescapes, ?_⟩
  rw [hescapes]
  exact not_reported_foreign

end Settings

end RowIngest
