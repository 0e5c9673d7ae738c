import Mathlib.Data.List.Forall2
import Mathlib.Data.List.TakeWhile
import RowIngest.Proofs.Dotted
/-!
The grammar of paths. A part of a path is a key without brackets, which may be empty, and behind it
any number of positions, each of them decimal digits in brackets. Main statement: unless some part
has a line break behind its last position, a text is read as a path exactly if it is blank or all
of its parts are of this form, and nothing of such a text is lost.
-/
namespace RowIngest.Path

/-- A part of a path: its key, and the digits of the positions behind it. -/
structure Part where
  key : List Char
  groups : List (List Char)

/-- Positions with these digits as they are written. -/
def bracketed (groups : List (List Char)) : List Char :=
  groups.flatMap fun digits => '[' :: digits ++ [']']

namespace Part

/-- The part as it is written. -/
def text (part : Part) : List Char := part.key ++ bracketed part.groups

def segments (part : Part) : Path :=
  keySegments part.key ++ part.groups.map fun digits => .index (Text.natOfDigits digits)

/-- A key without brackets, and positions that have digits and nothing else. -/
structure Proper (part : Part) : Prop where
  key : ∀ c ∈ part.key, isBracket c = false
  digits : ∀ digits ∈ part.groups, digits ≠ [] ∧ ∀ c ∈ digits, Text.isDigit c = true

/-- No position has too many digits. -/
def Short (part : Part) : Prop := ∀ digits ∈ part.groups, digits.length ≤ indexDigitLimit

end Part

/-- A piece of text is a part of a path by the grammar. -/
def IsPart (piece : List Char) : Prop := piece ≠ [] ∧ ∃ part : Part, part.Proper ∧ part.text = piece

/-- A piece of text is a part with a line break behind its last position. -/
def IsBroken (piece : List Char) : Prop :=
  ∃ part : Part, part.Proper ∧ part.groups ≠ [] ∧ piece = part.text ++ ['\n']

variable {cs piece digits : List Char} {groups : List (List Char)} {part : Part} {p : Path}

@[simp] theorem bracketed_nil : bracketed [] = [] := rfl

@[simp] theorem bracketed_cons (digits : List Char) (groups : List (List Char)) :
    bracketed (digits :: groups) = '[' :: (digits ++ ']' :: bracketed groups) := by
  simp [bracketed]

theorem bracketed_append (groups groups' : List (List Char)) :
    bracketed (groups ++ groups') = bracketed groups ++ bracketed groups' :=
  List.flatMap_append

theorem isDigit_close : Text.isDigit ']' = false := by decide

/-- The first digits are read up to the bracket behind them. -/
theorem indexGroups?_cons (h : ∀ c ∈ digits, Text.isDigit c = true) (hne : digits ≠ [])
    (rest : List Char) : indexGroups? ('[' :: (digits ++ ']' :: rest)) =
      (indexGroups? rest).map (digits :: ·) := by
  have htake : (digits ++ ']' :: rest).takeWhile Text.isDigit = digits := by
    rw [List.takeWhile_append_of_pos h, List.takeWhile_cons, isDigit_close]
    simp
  have hdrop : (digits ++ ']' :: rest).dropWhile Text.isDigit = ']' :: rest := by
    rw [List.dropWhile_append_of_pos h, List.dropWhile_cons, isDigit_close]
    simp
  have hnonempty : digits.isEmpty = false := by simpa using hne
  rw [indexGroups?, hdrop]
  simp only [htake, hnonempty, Bool.false_eq_true, if_false]

theorem indexGroups?_bracketed
    (h : ∀ digits ∈ groups, digits ≠ [] ∧ ∀ c ∈ digits, Text.isDigit c = true) :
    indexGroups? (bracketed groups) = some groups := by
  induction groups with
  | nil => rw [bracketed_nil, indexGroups?]
  | cons digits groups ih =>
    obtain ⟨hne, hdigits⟩ := h digits List.mem_cons_self
    have hrest := ih fun other hother => h other (List.mem_cons_of_mem digits hother)
    rw [bracketed_cons, indexGroups?_cons hdigits hne, hrest]
    rfl

/-- Whatever reads as positions is written so, but for a line break that may come behind them. -/
theorem bracketed_of_indexGroups? (h : indexGroups? cs = some groups) :
    (∀ digits ∈ groups, digits ≠ [] ∧ ∀ c ∈ digits, Text.isDigit c = true) ∧
      (cs = bracketed groups ∨ cs = bracketed groups ++ ['\n']) := by
  fun_induction indexGroups? cs generalizing groups with
  | case1 =>
    obtain rfl := Option.some.inj h
    exact ⟨nofun, Or.inl rfl⟩
  | case2 =>
    obtain rfl := Option.some.inj h
    exact ⟨nofun, Or.inr rfl⟩
  | case3 => cases h
  | case4 rest digits tail htail hne =>
    rename_i ih
    obtain ⟨others, hothers, rfl⟩ := Option.map_eq_some_iff.mp h
    obtain ⟨hrest, hwritten⟩ := ih hothers
    have hsplit : rest = digits ++ ']' :: tail := by
      rw [← htail]
      exact List.takeWhile_append_dropWhile.symm
    have hdigits : digits ≠ [] ∧ ∀ c ∈ digits, Text.isDigit c = true :=
      ⟨by simpa using hne, fun c hc => List.mem_takeWhile_imp hc⟩
    refine ⟨List.forall_mem_cons.mpr ⟨hdigits, hrest⟩, ?_⟩
    rw [hsplit, bracketed_cons]
    rcases hwritten with rfl | rfl
    · exact Or.inl rfl
    · exact Or.inr (by simp)
  | case5 => cases h
  | case6 => cases h

theorem head?_bracketed_of_ne_nil (h : groups ≠ []) : (bracketed groups).head? = some '[' := by
  cases groups with
  | nil => exact absurd rfl h
  | cons digits groups => simp

/-- The key of a part ends where its positions begin. -/
theorem Part.Proper.split (h : part.Proper) (behind : List Char)
    (hbehind : part.groups = [] → behind = []) :
    (part.text ++ behind).takeWhile (!isBracket ·) = part.key ∧
      (part.text ++ behind).dropWhile (!isBracket ·) = bracketed part.groups ++ behind := by
  have hkey : ∀ c ∈ part.key, (!isBracket c) = true := fun c hc => by simp [h.key c hc]
  have hstop : (bracketed part.groups ++ behind).takeWhile (!isBracket ·) = [] ∧
      (bracketed part.groups ++ behind).dropWhile (!isBracket ·) =
        bracketed part.groups ++ behind := by
    rcases hgroups : part.groups with _ | ⟨digits, others⟩
    · rw [hbehind hgroups]
      exact ⟨rfl, rfl⟩
    · rw [bracketed_cons]
      exact ⟨rfl, rfl⟩
  rw [Part.text, List.append_assoc, List.takeWhile_append_of_pos hkey,
    List.dropWhile_append_of_pos hkey, hstop.1, hstop.2, List.append_nil]
  exact ⟨rfl, rfl⟩

theorem Part.Proper.part?_text (h : part.Proper) (hne : part.text ≠ []) :
    part? part.text = some (part.key, part.groups) := by
  obtain ⟨hkey, hgroups⟩ := h.split [] fun _ => rfl
  rw [List.append_nil] at hkey hgroups
  have hsome : ¬ (part.key.isEmpty && part.groups.isEmpty) = true := by
    intro hempty
    simp only [Bool.and_eq_true, List.isEmpty_iff] at hempty
    exact hne (by rw [Part.text, hempty.1, hempty.2]; rfl)
  simp only [part?, hkey, hgroups, List.append_nil, indexGroups?_bracketed h.digits, hsome,
    Bool.false_eq_true, if_false]

/-- What a piece of text is read as is written there, and nothing else but a line break behind the
last position. -/
theorem part?_eq_some (h : part? piece = some (part.key, part.groups)) :
    part.Proper ∧ part.text ≠ [] ∧
      (piece = part.text ∨ part.groups ≠ [] ∧ piece = part.text ++ ['\n']) := by
  simp only [part?] at h
  split at h
  · rename_i groups hgroups
    split at h
    · cases h
    · rename_i hsome
      obtain ⟨hkey, rfl⟩ := Prod.mk.inj (Option.some.inj h)
      obtain ⟨hdigits, hwritten⟩ := bracketed_of_indexGroups? hgroups
      have hproper : part.Proper := by
        refine ⟨fun c hc => ?_, hdigits⟩
        rw [← hkey] at hc
        simpa using List.mem_takeWhile_imp hc
      have hpiece : piece = part.key ++ piece.dropWhile (!isBracket ·) := by
        rw [← hkey]
        exact List.takeWhile_append_dropWhile.symm
      refine ⟨hproper, ?_, ?_⟩
      · intro hnil
        obtain ⟨hempty, hnone⟩ := List.append_eq_nil_iff.mp hnil
        have hgroups' : part.groups = [] := by
          by_contra hne
          have hhead := head?_bracketed_of_ne_nil hne
          rw [hnone] at hhead
          cases hhead
        exact hsome (by simp [hkey, hempty, hgroups'])
      · rw [hpiece, Part.text]
        rcases hwritten with hwritten | hwritten
        · left
          rw [hwritten]
        · right
          refine ⟨fun hnone => ?_, by rw [hwritten, List.append_assoc]⟩
          -- Without positions a line break belongs to the key.
          have hstop := List.head?_dropWhile_not (!isBracket ·) piece
          rw [hwritten, hnone] at hstop
          cases hstop
  · cases h

/-- A piece of text is read as this part. -/
structure Part.Reads (part : Part) (piece : List Char) : Prop where
  read : part? piece = some (part.key, part.groups)
  short : part.Short

theorem Part.Proper.reads (h : part.Proper) (hne : part.text ≠ []) (hshort : part.Short) :
    part.Reads part.text :=
  ⟨h.part?_text hne, hshort⟩

theorem indexSegment_eq_ok_iff {s : Segment} : indexSegment digits = .ok s ↔
    digits.length ≤ indexDigitLimit ∧ s = .index (Text.natOfDigits digits) := by
  unfold indexSegment
  by_cases hlong : digits.length > indexDigitLimit
  · rw [if_pos hlong]
    constructor
    · intro h
      cases h
    · intro h
      omega
  · rw [if_neg hlong, Except.ok.injEq, eq_comm]
    exact (and_iff_right (by omega)).symm

theorem mapM_indexSegment_eq_ok_iff : groups.mapM indexSegment = .ok p ↔
    (∀ digits ∈ groups, digits.length ≤ indexDigitLimit) ∧
      p = groups.map fun digits => .index (Text.natOfDigits digits) := by
  induction groups generalizing p with
  | nil =>
    rw [List.mapM_nil]
    exact ⟨fun h => ⟨nofun, (Except.ok.inj h).symm⟩, fun h => congrArg Except.ok h.2.symm⟩
  | cons digits groups ih =>
    rw [List.mapM_cons, List.forall_mem_cons]
    constructor
    · intro h
      obtain ⟨s, hone, h⟩ := bind_eq_ok.mp h
      obtain ⟨others, hrest, h⟩ := bind_eq_ok.mp h
      obtain ⟨hshort, rfl⟩ := indexSegment_eq_ok_iff.mp hone
      obtain ⟨hothers, rfl⟩ := ih.mp hrest
      exact ⟨⟨hshort, hothers⟩, (Except.ok.inj h).symm⟩
    · rintro ⟨⟨hshort, hothers⟩, rfl⟩
      exact bind_eq_ok.mpr ⟨_, indexSegment_eq_ok_iff.mpr ⟨hshort, rfl⟩,
        bind_eq_ok.mpr ⟨_, ih.mpr ⟨hothers, rfl⟩, rfl⟩⟩

theorem partSegments_eq_ok_iff : partSegments cs piece = .ok p ↔
    ∃ part : Part, part.Reads piece ∧ p = part.segments := by
  unfold partSegments
  rcases hread : part? piece with _ | ⟨key, groups⟩
  · constructor
    · intro h
      cases h
    · rintro ⟨part, hpart, -⟩
      rw [hpart.read] at hread
      cases hread
  · constructor
    · intro h
      obtain ⟨positions, hpositions, h⟩ := bind_eq_ok.mp h
      obtain ⟨hshort, rfl⟩ := mapM_indexSegment_eq_ok_iff.mp hpositions
      exact ⟨⟨key, groups⟩, ⟨hread, hshort⟩, (Except.ok.inj h).symm⟩
    · rintro ⟨part, hpart, rfl⟩
      obtain ⟨rfl, rfl⟩ := Prod.mk.inj (Option.some.inj (hread.symm.trans hpart.read))
      exact bind_eq_ok.mpr ⟨_, mapM_indexSegment_eq_ok_iff.mpr ⟨hpart.short, rfl⟩, rfl⟩

/-- Pieces of text are read one after the other, and their segments put together. -/
theorem foldlM_partSegments_eq_ok_iff {pieces : List (List Char)} {before : Path} :
    pieces.foldlM (fun segments piece => do
      return segments ++ (← partSegments cs piece)) before = .ok p ↔
    ∃ parts : List Part, List.Forall₂ Part.Reads parts pieces ∧
      p = before ++ parts.flatMap Part.segments := by
  induction pieces generalizing before with
  | nil =>
    constructor
    · intro h
      exact ⟨[], .nil, by simp [← Except.ok.inj h]⟩
    · rintro ⟨parts, hparts, rfl⟩
      cases hparts
      simp
      rfl
  | cons piece pieces ih =>
    rw [foldlM_cons_ok]
    constructor
    · rintro ⟨between, hone, hrest⟩
      obtain ⟨segments, hread, hone⟩ := bind_eq_ok.mp hone
      obtain ⟨part, hpart, rfl⟩ := partSegments_eq_ok_iff.mp hread
      obtain ⟨parts, hparts, rfl⟩ := ih.mp hrest
      obtain rfl := Except.ok.inj hone
      exact ⟨part :: parts, .cons hpart hparts, by simp⟩
    · rintro ⟨parts, hparts, rfl⟩
      cases hparts with
      | @cons part _ others _ hpart hothers =>
        have hread : partSegments cs piece = .ok part.segments :=
          partSegments_eq_ok_iff.mpr ⟨part, hpart, rfl⟩
        exact ⟨before ++ part.segments, bind_eq_ok.mpr ⟨_, hread, rfl⟩,
          ih.mpr ⟨others, hothers, by simp⟩⟩

/-- A text that is not blank is read as a path if all its pieces are read as parts. -/
theorem parseTrimmed_eq_ok_iff (hne : cs ≠ []) : parseTrimmed cs = .ok p ↔
    ∃ parts : List Part, List.Forall₂ Part.Reads parts (splitAt '.' cs) ∧
      p = parts.flatMap Part.segments := by
  have hnonempty : ¬ cs.isEmpty = true := by simpa using hne
  rw [parseTrimmed, if_neg hnonempty, foldlM_partSegments_eq_ok_iff]
  simp

/-- A piece stands somewhere in the text: at its start if it is the first one, and at its end if it
is the last one. -/
theorem exists_append_of_splitAt {sep : Char} {before after : List (List Char)}
    (h : splitAt sep cs = before ++ piece :: after) :
    ∃ left right, cs = left ++ piece ++ right ∧ (before = [] → left = []) ∧
      (after = [] → right = []) := by
  induction cs generalizing before piece with
  | nil =>
    rcases before with _ | ⟨first, before⟩
    · obtain ⟨rfl, -⟩ := List.cons.inj h
      exact ⟨[], [], rfl, fun _ => rfl, fun _ => rfl⟩
    · have hnone := (List.cons.inj h).2
      simp at hnone
  | cons c cs ih =>
    by_cases hc : c = sep
    · simp only [splitAt, hc, if_true] at h
      rcases before with _ | ⟨first, before⟩
      · obtain ⟨rfl, rfl⟩ := List.cons.inj h
        exact ⟨[], c :: cs, rfl, fun _ => rfl, fun hnil => absurd hnil (splitAt_ne_nil sep cs)⟩
      · obtain ⟨left, right, hcs, -, hlast⟩ := ih (List.cons.inj h).2
        exact ⟨c :: left, right, by simp [hcs],
          fun hnil => absurd hnil (List.cons_ne_nil _ _), hlast⟩
    · rcases hsplit : splitAt sep cs with _ | ⟨first, others⟩
      · exact absurd hsplit (splitAt_ne_nil sep cs)
      · simp only [splitAt, hc, if_false, hsplit] at h
        -- The character belongs to the first piece, whichever piece this is.
        rcases before with _ | ⟨_, before⟩
        · obtain ⟨rfl, rfl⟩ := List.cons.inj h
          have hhere : splitAt sep cs = [] ++ first :: others := hsplit
          obtain ⟨left, right, hcs, hfirst, hlast⟩ := ih hhere
          obtain rfl := hfirst rfl
          exact ⟨[], right, by simp [hcs], fun _ => rfl, hlast⟩
        · obtain ⟨-, rfl⟩ := List.cons.inj h
          have hlater : splitAt sep cs = (first :: before) ++ piece :: after := hsplit
          obtain ⟨left, right, hcs, -, hlast⟩ := ih hlater
          exact ⟨c :: left, right, by simp [hcs],
            fun hnil => absurd hnil (List.cons_ne_nil _ _), hlast⟩

theorem infix_of_mem_splitAt {sep : Char} (h : piece ∈ splitAt sep cs) : piece <:+: cs := by
  obtain ⟨before, after, hsplit⟩ := List.append_of_mem h
  obtain ⟨left, right, rfl, -, -⟩ := exists_append_of_splitAt hsplit
  exact List.infix_append left piece right

/-- The text of a path without the blanks around it. -/
def trimmed (text : String) : List Char := Text.trimChars Text.isBlank text.toList

/-- What stands between the dots. -/
def pieces (text : String) : List (List Char) := splitAt '.' (trimmed text)

/-- No position in brackets has too many digits. -/
def ShortPositions (text : String) : Prop :=
  ∀ digits, (∀ c ∈ digits, Text.isDigit c = true) → '[' :: (digits ++ [']']) <:+: text.toList →
    digits.length ≤ indexDigitLimit

variable {text : String}

/-- A short text has short positions. -/
theorem shortPositions_of_length (h : text.toList.length ≤ indexDigitLimit) :
    ShortPositions text := by
  intro digits _ hinfix
  have hlength := hinfix.length_le
  simp only [List.length_cons, List.length_append] at hlength
  omega

theorem infix_bracketed (h : digits ∈ groups) : '[' :: (digits ++ [']']) <:+: bracketed groups := by
  obtain ⟨before, after, rfl⟩ := List.append_of_mem h
  refine ⟨bracketed before, bracketed after, ?_⟩
  rw [bracketed_append, bracketed_cons]
  simp

theorem Part.Proper.short (h : part.Proper) (hshort : ShortPositions text)
    (hpart : part.text <:+: text.toList) : part.Short := by
  intro digits hdigits
  refine hshort digits (h.digits digits hdigits).2 ?_
  have hbehind : bracketed part.groups <:+: part.text :=
    (List.suffix_append part.key (bracketed part.groups)).isInfix
  exact (infix_bracketed hdigits).trans (hbehind.trans hpart)

theorem infix_of_mem_pieces (h : piece ∈ pieces text) : piece <:+: text.toList :=
  (infix_of_mem_splitAt h).trans (Text.trimChars_infix Text.isBlank text.toList)

theorem close_suffix_of_ne_nil (h : groups ≠ []) : [']'] <:+ bracketed groups := by
  obtain ⟨before, last, rfl⟩ := (List.eq_nil_or_concat' groups).resolve_left h
  rw [bracketed_append, bracketed_cons, bracketed_nil]
  exact ⟨bracketed before ++ '[' :: last, by simp⟩

/-- Without a line break behind its last position a piece is what the part is written as. -/
theorem isPart_of_read (hunbroken : ¬ IsBroken piece)
    (hread : part? piece = some (part.key, part.groups)) : part.text = piece ∧ IsPart piece := by
  obtain ⟨hproper, hne, rfl | ⟨hsome, hpiece⟩⟩ := part?_eq_some hread
  · exact ⟨rfl, hne, part, hproper, rfl⟩
  · exact absurd ⟨part, hproper, hsome, hpiece⟩ hunbroken

theorem IsBroken.suffix (h : IsBroken piece) : [']', '\n'] <:+ piece := by
  obtain ⟨part, -, hsome, rfl⟩ := h
  obtain ⟨front, hfront⟩ := close_suffix_of_ne_nil hsome
  refine ⟨part.key ++ front, ?_⟩
  rw [Part.text, ← hfront]
  simp

/-- With a line break there, a piece is no part. -/
theorem not_isPart_of_break (h : [']', '\n'] <:+ piece) : ¬ IsPart piece := by
  rintro ⟨-, part, hproper, rfl⟩
  obtain ⟨before, hbefore⟩ := h
  by_cases hnone : part.groups = []
  · have hkey : part.text = part.key := by rw [Part.text, hnone, bracketed_nil, List.append_nil]
    have hbracket : isBracket ']' = false := hproper.key ']' (by simp [← hkey, ← hbefore])
    cases hbracket
  · obtain ⟨front, hfront⟩ := close_suffix_of_ne_nil hnone
    have hlast := congrArg List.getLast? hbefore
    rw [Part.text, ← hfront] at hlast
    simp at hlast

/-- A piece that cannot be read is no part, unless a position has too many digits. -/
theorem partSegments_eq_error {e : PathError} (h : partSegments cs piece = .error e)
    (hshort : ∀ part : Part, part? piece = some (part.key, part.groups) → part.Short) :
    part? piece = none ∧ e = .malformed (String.ofList cs) (String.ofList piece) := by
  rcases hread : part? piece with _ | ⟨key, groups⟩
  · rw [partSegments, hread] at h
    exact ⟨rfl, (Except.error.inj h).symm⟩
  · have hreads : Part.Reads ⟨key, groups⟩ piece := ⟨hread, hshort ⟨key, groups⟩ hread⟩
    rw [partSegments_eq_ok_iff.mpr ⟨_, hreads, rfl⟩] at h
    cases h

/-- Pieces that are read as parts are these parts as they are written. -/
theorem texts_of_reads {parts : List Part} {read : List (List Char)}
    (h : List.Forall₂ Part.Reads parts read) (hunbroken : ∀ piece ∈ read, ¬ IsBroken piece) :
    parts.map Part.text = read ∧ (∀ part ∈ parts, part.Proper) ∧ ∀ piece ∈ read, IsPart piece := by
  induction h with
  | nil => exact ⟨rfl, nofun, nofun⟩
  | @cons part piece parts read hreads _ ih =>
    obtain ⟨hfirst, hothers⟩ := List.forall_mem_cons.mp hunbroken
    obtain ⟨htexts, hproper, hall⟩ := ih hothers
    obtain ⟨htext, hpiece⟩ := isPart_of_read hfirst hreads.read
    exact ⟨by rw [List.map_cons, htext, htexts],
      List.forall_mem_cons.mpr ⟨(part?_eq_some hreads.read).1, hproper⟩,
      List.forall_mem_cons.mpr ⟨hpiece, hall⟩⟩

section

variable (hshort : ShortPositions text)
  (hunbroken : ∀ piece ∈ pieces text, ¬ IsBroken piece)

include hshort hunbroken

/-- The first piece that cannot be read is no part, and it is named. -/
theorem first_of_parse_error {e : PathError} (h : parse text = .error e) :
    ∃ before piece after, pieces text = before ++ piece :: after ∧
      (∀ other ∈ before, IsPart other) ∧ ¬ IsPart piece ∧
      e = .malformed (String.ofList (trimmed text)) (String.ofList piece) := by
  change parseTrimmed (trimmed text) = .error e at h
  unfold parseTrimmed at h
  split at h
  · cases h
  · obtain ⟨before, piece, after, _, hpieces, hbefore, hfails⟩ := foldlM_stops h
    change pieces text = before ++ piece :: after at hpieces
    have hpiece : piece ∈ pieces text := by
      rw [hpieces]
      simp
    have hread : partSegments (trimmed text) piece = .error e := by
      rcases bind_eq_error.mp hfails with hread | ⟨_, -, hnever⟩
      · exact hread
      · cases hnever
    obtain ⟨parts, hparts, -⟩ := foldlM_partSegments_eq_ok_iff.mp hbefore
    have hall : ∀ other ∈ before, IsPart other := by
      refine (texts_of_reads hparts fun other hother => hunbroken other ?_).2.2
      rw [hpieces]
      exact List.mem_append_left _ hother
    have hpositions : ∀ part : Part, part? piece = some (part.key, part.groups) → part.Short := by
      intro part hpart
      obtain ⟨htext, -⟩ := isPart_of_read (hunbroken piece hpiece) hpart
      exact (part?_eq_some hpart).1.short hshort (htext ▸ infix_of_mem_pieces hpiece)
    obtain ⟨hnone, he⟩ := partSegments_eq_error hread hpositions
    refine ⟨before, piece, after, hpieces, hall, ?_, he⟩
    rintro ⟨hne, part, hproper, rfl⟩
    rw [hproper.part?_text hne] at hnone
    cases hnone

/-- A text is read as a path exactly if it is blank or all its pieces are parts; otherwise the first
piece that is no part is named. What is read holds all that the pieces hold. -/
theorem parse_accepts_grammar :
    ((∃ p, parse text = .ok p) ↔ trimmed text = [] ∨ ∀ piece ∈ pieces text, IsPart piece) ∧
    (∀ e, parse text = .error e → ∃ before piece after,
      pieces text = before ++ piece :: after ∧ (∀ other ∈ before, IsPart other) ∧ ¬ IsPart piece ∧
      e.fault = .config (.malformedPath (String.ofList (trimmed text)) (String.ofList piece))) ∧
    ∀ p, parse text = .ok p → trimmed text ≠ [] → ∃ parts : List Part,
      parts.map Part.text = pieces text ∧ (∀ part ∈ parts, part.Proper) ∧
      p = parts.flatMap Part.segments := by
  have hread : ∀ p, parse text = .ok p → trimmed text ≠ [] → ∃ parts : List Part,
      List.Forall₂ Part.Reads parts (pieces text) ∧ p = parts.flatMap Part.segments :=
    fun p hp hsome => (parseTrimmed_eq_ok_iff hsome).mp hp
  refine ⟨⟨?_, ?_⟩, ?_, ?_⟩
  · rintro ⟨p, hp⟩
    by_cases hblank : trimmed text = []
    · exact Or.inl hblank
    · obtain ⟨parts, hparts, -⟩ := hread p hp hblank
      exact Or.inr (texts_of_reads hparts hunbroken).2.2
  · intro hgrammar
    rcases hp : parse text with e | p
    · obtain ⟨before, piece, after, hpieces, -, hpiece, -⟩ :=
        first_of_parse_error hshort hunbroken hp
      rcases hgrammar with hblank | hall
      · change parseTrimmed (trimmed text) = .error e at hp
        rw [hblank] at hp
        cases hp
      · exact absurd (hall piece (by simp [hpieces])) hpiece
    · exact ⟨p, rfl⟩
  · intro e he
    obtain ⟨before, piece, after, hpieces, hall, hpiece, rfl⟩ :=
      first_of_parse_error hshort hunbroken he
    exact ⟨before, piece, after, hpieces, hall, hpiece, rfl⟩
  · intro p hp hsome
    obtain ⟨parts, hparts, rfl⟩ := hread p hp hsome
    obtain ⟨htexts, hproper, -⟩ := texts_of_reads hparts hunbroken
    exact ⟨parts, htexts, hproper, rfl⟩

end

/-- A line break within a key, and a digit of another script. -/
def cellText : String := " matrix[1][0].cell\n.x[٣] "

theorem parse_accepts_grammar_cell :
    ShortPositions cellText ∧ (∀ piece ∈ pieces cellText, ¬ IsBroken piece) ∧
    parse cellText =
      .ok [.key "matrix", .index 1, .index 0, .key "cell\n", .key "x", .index 3] ∧
    ∀ piece ∈ pieces cellText, IsPart piece := by
  have hshort : ShortPositions cellText := shortPositions_of_length (by decide)
  have hends : ∀ piece ∈ pieces cellText, ¬ [']', '\n'] <:+ piece := by decide
  have hunbroken : ∀ piece ∈ pieces cellText, ¬ IsBroken piece :=
    fun piece hpiece hbroken => hends piece hpiece hbroken.suffix
  have hparse : parse cellText =
      .ok [.key "matrix", .index 1, .index 0, .key "cell\n", .key "x", .index 3] := by
    with_unfolding_all rfl
  refine ⟨hshort, hunbroken, hparse, ?_⟩
  rcases (parse_accepts_grammar hshort hunbroken).1.mp ⟨_, hparse⟩ with hblank | hall
  · cases hblank
  · exact hall

/-- A line break behind a position is lost, so that the text is read although one of its pieces is
no part. -/
theorem line_break_lost :
    ShortPositions "a[0]\n.b" ∧ parse "a[0]\n.b" = .ok [.key "a", .index 0, .key "b"] ∧
    trimmed "a[0]\n.b" ≠ [] ∧ ¬ ∀ piece ∈ pieces "a[0]\n.b", IsPart piece := by
  refine ⟨shortPositions_of_length (by decide), by with_unfolding_all rfl, by decide, ?_⟩
  intro hall
  have hpiece : "a[0]\n".toList ∈ pieces "a[0]\n.b" := by decide
  exact not_isPart_of_break (by decide) (hall _ hpiece)

end RowIngest.Path
