import RowIngest.Proofs.Configuration
import RowIngest.Proofs.Giving
/-!
Dotted text. A path is plain if none of its keys has a dot in it. Main statements: the dotted text
of a plain path falls apart again into its segments, and every path that is read from text is
plain.
-/
namespace RowIngest

namespace Path

/-- No key has a dot in it. -/
def Plain (p : Path) : Prop := ∀ name, Segment.key name ∈ p → '.' ∉ name.toList

theorem Plain.append {p q : Path} (hp : p.Plain) (hq : q.Plain) : (p ++ q).Plain :=
  fun name hname => (List.mem_append.mp hname).elim (hp name) (hq name)

section

variable {sep : Char}

theorem splitAt_of_not_mem {cs : List Char} (h : sep ∉ cs) : splitAt sep cs = [cs] := by
  induction cs with
  | nil => rfl
  | cons c cs ih =>
    obtain ⟨hc, hcs⟩ := not_or.mp (mt List.mem_cons.mpr h)
    simp only [splitAt, Ne.symm hc, if_false, ih hcs]

theorem splitAt_append {cs : List Char} (h : sep ∉ cs) (rest : List Char) :
    splitAt sep (cs ++ sep :: rest) = cs :: splitAt sep rest := by
  induction cs with
  | nil => simp [splitAt]
  | cons c cs ih =>
    obtain ⟨hc, hcs⟩ := not_or.mp (mt List.mem_cons.mpr h)
    simp only [List.cons_append, splitAt, Ne.symm hc, if_false, ih hcs]

theorem not_mem_of_mem_splitAt {cs piece : List Char} (h : piece ∈ splitAt sep cs) :
    sep ∉ piece := by
  induction cs generalizing piece with
  | nil => simp [List.mem_singleton.mp h]
  | cons c cs ih =>
    by_cases hc : c = sep
    · simp only [splitAt, hc, if_true, List.mem_cons] at h
      rcases h with rfl | h
      · simp
      · exact ih h
    · rcases hsplit : splitAt sep cs with _ | ⟨first, others⟩
      · exact absurd hsplit (splitAt_ne_nil sep cs)
      · simp only [splitAt, hc, if_false, hsplit, List.mem_cons] at h
        rw [hsplit] at ih
        rcases h with rfl | h
        · simp [Ne.symm hc, ih List.mem_cons_self]
        · exact ih (List.mem_cons_of_mem _ h)

end

/-- What is joined by dots falls apart at the dots. -/
theorem splitAt_joined {parts : List String} (hne : parts ≠ [])
    (h : ∀ part ∈ parts, '.' ∉ part.toList) :
    splitAt '.' (joined "." parts).toList = parts.map String.toList := by
  induction parts with
  | nil => exact absurd rfl hne
  | cons part rest ih =>
    have hpart := h part List.mem_cons_self
    rcases rest with _ | ⟨next, rest⟩
    · simp [joined, splitAt_of_not_mem hpart]
    · have hrest := ih (List.cons_ne_nil next rest) fun q hq => h q (List.mem_cons_of_mem part hq)
      have hjoined : (joined "." (part :: next :: rest)).toList =
          part.toList ++ '.' :: (joined "." (next :: rest)).toList := by
        simp [joined, String.toList_append]
      rw [hjoined, splitAt_append hpart, hrest]
      rfl

theorem not_mem_toString (position : Nat) : '.' ∉ (toString position).toList := by
  rw [Nat.toString_eq_ofList_toDigits, String.toList_ofList]
  intro hdot
  have hdigit := Nat.isDigit_of_mem_toDigits (by decide) (by decide) hdot
  cases hdigit

/-- The dotted text of a plain path has its segments between the dots. -/
theorem splitAt_dotted {p : Path} (hne : p ≠ []) (hplain : p.Plain) :
    splitAt '.' p.dotted.toList = p.map fun s => s.dotted.toList := by
  rw [dotted, splitAt_joined (by simpa using hne), List.map_map]
  · rfl
  · intro part hpart
    obtain ⟨s, hs, rfl⟩ := List.mem_map.mp hpart
    cases s with
    | key name => exact hplain name hs
    | index position => exact not_mem_toString position

theorem eq_index_of_indexSegment {digits : List Char} {s : Segment}
    (h : indexSegment digits = .ok s) : ∃ position, s = .index position := by
  unfold indexSegment at h
  split at h
  · cases h
  · exact ⟨_, (Except.ok.inj h).symm⟩

theorem plain_of_mapM_indexSegment {groups : List (List Char)} {positions : Path}
    (h : groups.mapM indexSegment = .ok positions) : positions.Plain := by
  induction groups generalizing positions with
  | nil =>
    obtain rfl : [] = positions := Except.ok.inj h
    simp [Plain]
  | cons digits groups ih =>
    rw [List.mapM_cons] at h
    obtain ⟨s, hone, h⟩ := bind_eq_ok.mp h
    obtain ⟨others, hrest, h⟩ := bind_eq_ok.mp h
    obtain ⟨position, rfl⟩ := eq_index_of_indexSegment hone
    obtain rfl := Except.ok.inj h
    intro name hname
    simp only [List.mem_cons, reduceCtorEq, false_or] at hname
    exact ih hrest name hname

theorem plain_keySegments {key : List Char} (h : '.' ∉ key) : (keySegments key).Plain := by
  intro name hname
  by_cases hempty : key.isEmpty = true <;>
    simp only [keySegments, hempty, if_true, if_false, Bool.false_eq_true, List.not_mem_nil,
      List.mem_singleton, Segment.key.injEq] at hname
  rwa [hname, String.toList_ofList]

theorem mem_of_part? {part key : List Char} {groups : List (List Char)}
    (h : part? part = some (key, groups)) {c : Char} (hc : c ∈ key) : c ∈ part := by
  simp only [part?] at h
  split at h
  · split at h
    · cases h
    · obtain ⟨rfl, -⟩ := Prod.mk.inj (Option.some.inj h)
      exact (List.takeWhile_sublist _).mem hc
  · cases h

theorem plain_of_partSegments {path part : List Char} {p : Path}
    (h : partSegments path part = .ok p) (hpart : '.' ∉ part) : p.Plain := by
  unfold partSegments at h
  split at h
  · cases h
  · rename_i key groups hread
    obtain ⟨positions, hpositions, h⟩ := bind_eq_ok.mp h
    obtain rfl := Except.ok.inj h
    exact (plain_keySegments (mt (mem_of_part? hread) hpart)).append
      (plain_of_mapM_indexSegment hpositions)

theorem plain_of_foldlM_partSegments {path : List Char} {parts : List (List Char)} {p q : Path}
    (h : parts.foldlM (fun segments part => do
      return segments ++ (← partSegments path part)) p = .ok q)
    (hp : p.Plain) (hparts : ∀ part ∈ parts, '.' ∉ part) : q.Plain := by
  refine foldlM_keeps (P := Plain) (fun part hpart before after hone hbefore => ?_) h hp
  obtain ⟨segments, hread, hone⟩ := bind_eq_ok.mp hone
  obtain rfl := Except.ok.inj hone
  exact hbefore.append (plain_of_partSegments hread (hparts part hpart))

/-- A path that was read from text is plain: the dots ended its keys. -/
theorem plain_of_parseTrimmed {cs : List Char} {p : Path} (h : parseTrimmed cs = .ok p) :
    p.Plain := by
  unfold parseTrimmed at h
  split at h
  · obtain rfl : [] = p := Except.ok.inj h
    simp [Plain]
  · exact plain_of_foldlM_partSegments h (by simp [Plain]) fun _ => not_mem_of_mem_splitAt

end Path

namespace FieldMapping

variable {f : FieldMapping}

theorem plain_of_checkTarget {v : Value} {target : String × Path}
    (h : checkTarget v = .valid target) : target.2.Plain := by
  obtain ⟨text, -, hread⟩ := Checked.andThen_eq_valid.mp h
  rcases hpath : Path.parseTrimmed (Text.trimChars Text.isBlank text.toList) with e | path
  · cases e <;> simp [hpath, Checked.issue] at hread
  · simp only [hpath, Checked.valid.injEq] at hread
    rw [← hread]
    exact Path.plain_of_parseTrimmed hpath

/-- The target path of a mapped field is plain. -/
theorem plain_base_of_check {source : Check.Source} {v : Value} (h : check source v = .valid f) :
    f.base.Plain := by
  obtain ⟨fs, -, h⟩ := Checked.andThen_eq_valid.mp h
  simp only [checkFields, Checked.seq_eq_valid, Checked.map_eq_valid] at h
  obtain ⟨_, _, ⟨_, _, ⟨_, _, ⟨_, _, ⟨_, _, ⟨_, target, ⟨_, _, rfl⟩, htarget, rfl⟩, _, rfl⟩, _,
    rfl⟩, _, rfl⟩, _, rfl⟩, _, rfl⟩ := h
  rcases Check.eq_or_of_optional htarget with rfl | ⟨w, hw⟩
  · simp [Path.Plain]
  · exact plain_of_checkTarget hw

/-- So is the path of the whole place, unless a name with a dot is added to it. -/
theorem plain_path (hbase : f.base.Plain) (hname : f.appendsField = true → '.' ∉ f.field.toList) :
    f.path.Plain := by
  cases happends : f.appendsField with
  | false => simpa [path, happends] using hbase
  | true =>
    have hlast : Path.Plain [.key f.field] := by
      intro name hname'
      obtain rfl : name = f.field := by simpa using hname'
      exact hname happends
    simpa [path, happends] using hbase.append hlast

end FieldMapping

end RowIngest
