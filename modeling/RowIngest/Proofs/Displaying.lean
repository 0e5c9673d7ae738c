import RowIngest.Proofs.Parsing
/-!
Paths as they are shown in brackets. A path is legible if its keys are not empty and have neither
dots nor brackets in them, and if it neither begins nor ends with a blank. Main statement: a path is
read from some text exactly if it is legible, and then it is read from the text that it is shown as.
-/
namespace RowIngest.Path

/-- A key that can stand in a path: not empty, with neither dots nor brackets in it. -/
def Nameable (name : String) : Prop :=
  name ≠ "" ∧ ∀ c ∈ name.toList, c ≠ '.' ∧ c ≠ '[' ∧ c ≠ ']'

/-- The path can be told from its text. -/
structure Legible (p : Path) : Prop where
  keys : ∀ name, .key name ∈ p → Nameable name
  first : ∀ name c, p.head? = some (.key name) → name.toList.head? = some c →
    Text.isBlank c = false
  last : ∀ name c, p.getLast? = some (.key name) → name.toList.getLast? = some c →
    Text.isBlank c = false

/-- Positions with few enough digits to be read. -/
def FewDigits (p : Path) : Prop :=
  ∀ position, .index position ∈ p → (Nat.toDigits 10 position).length ≤ indexDigitLimit

/-- The text of segments that come behind others. -/
def textBehind : Path → List Char
  | [] => []
  | .key name :: rest => '.' :: (name.toList ++ textBehind rest)
  | .index position :: rest => '[' :: (Nat.toDigits 10 position ++ ']' :: textBehind rest)

namespace Part

/-- A part that can be read from its text and has no dot in it. -/
structure Plain (part : Part) : Prop where
  proper : part.Proper
  short : part.Short
  undotted : '.' ∉ part.text

def ofKey (name : String) : Part := ⟨name.toList, []⟩

def empty : Part := ⟨[], []⟩

/-- The part with one more position. -/
def withPosition (part : Part) (position : Nat) : Part :=
  ⟨part.key, part.groups ++ [Nat.toDigits 10 position]⟩

end Part

variable {p : Path} {part : Part} {name : String} {position : Nat}

namespace Part

@[simp] theorem text_ofKey (name : String) : (ofKey name).text = name.toList := by
  simp [ofKey, text]

@[simp] theorem text_empty : empty.text = [] := rfl

@[simp] theorem text_withPosition (part : Part) (position : Nat) :
    (part.withPosition position).text =
      part.text ++ '[' :: (Nat.toDigits 10 position ++ [']']) := by
  simp [withPosition, text, bracketed_append]

theorem segments_ofKey (hne : name ≠ "") : (ofKey name).segments = [.key name] := by
  have hnonempty : name.toList.isEmpty = false := by simpa using hne
  simp [ofKey, segments, keySegments, hnonempty]

theorem segments_withPosition (part : Part) (position : Nat) :
    (part.withPosition position).segments = part.segments ++ [.index position] := by
  simp [withPosition, segments, Text.natOfDigits_toDigits]

theorem digits_toDigits (position : Nat) : Nat.toDigits 10 position ≠ [] ∧
    ∀ c ∈ Nat.toDigits 10 position, Text.isDigit c = true :=
  ⟨Nat.toDigits_ne_nil, fun _ hc => Text.isDigit_of_mem_toDigits hc⟩

theorem plain_ofKey (h : Nameable name) :
    (ofKey name).Plain where
  proper := ⟨fun c hc => by simp [isBracket, (h.2 c hc).2], nofun⟩
  short := nofun
  undotted := by
    rw [text_ofKey]
    exact fun hdot => (h.2 '.' hdot).1 rfl

theorem Plain.withPosition (h : part.Plain)
    (hfew : (Nat.toDigits 10 position).length ≤ indexDigitLimit) :
    (part.withPosition position).Plain where
  proper := by
    refine ⟨h.proper.key, fun digits hdigits => ?_⟩
    rcases List.mem_append.mp hdigits with hold | hnew
    · exact h.proper.digits digits hold
    · rw [List.mem_singleton.mp hnew]
      exact digits_toDigits position
  short := by
    intro digits hdigits
    rcases List.mem_append.mp hdigits with hold | hnew
    · exact h.short digits hold
    · rw [List.mem_singleton.mp hnew]
      exact hfew
  undotted := by
    have hdigits : '.' ∉ Nat.toDigits 10 position := by simpa using not_mem_toString position
    simp [h.undotted, hdigits]

end Part

/-- What is written behind a part is read back, part after part, by induction on the segments: a
position belongs to the part before it, and a key begins a new part. -/
theorem reads_textBehind (hpart : part.Plain) (hne : part.text ≠ [])
    (hkeys : ∀ name, .key name ∈ p → Nameable name)
    (hfew : FewDigits p) :
    ∃ parts : List Part,
      List.Forall₂ Part.Reads parts (splitAt '.' (part.text ++ textBehind p)) ∧
      parts.flatMap Part.segments = part.segments ++ p := by
  induction p generalizing part with
  | nil =>
    refine ⟨[part], ?_, by simp⟩
    rw [textBehind, List.append_nil, splitAt_of_not_mem hpart.undotted]
    exact .cons (hpart.proper.reads hne hpart.short) .nil
  | cons s rest ih =>
    have hothers := fun name (h : .key name ∈ rest) => hkeys name (List.mem_cons_of_mem s h)
    have hfewer : FewDigits rest := fun position h => hfew position (List.mem_cons_of_mem s h)
    cases s with
    | key name =>
      have hname := hkeys name List.mem_cons_self
      obtain ⟨parts, hparts, hsegments⟩ :=
        ih (Part.plain_ofKey hname) (by simpa using hname.1) hothers hfewer
      refine ⟨part :: parts, ?_, ?_⟩
      · rw [textBehind, splitAt_append hpart.undotted, ← Part.text_ofKey]
        exact .cons (hpart.proper.reads hne hpart.short) hparts
      · rw [List.flatMap_cons, hsegments, Part.segments_ofKey hname.1]
        rfl
    | index position =>
      have hposition := hfew position List.mem_cons_self
      obtain ⟨parts, hparts, hsegments⟩ :=
        ih (hpart.withPosition hposition) (by simp) hothers hfewer
      refine ⟨parts, ?_, ?_⟩
      · simpa [textBehind] using hparts
      · rw [hsegments, Part.segments_withPosition, List.append_assoc]
        rfl

theorem toList_display_index (position : Nat) :
    (s!"[{position}]").toList = '[' :: (Nat.toDigits 10 position ++ [']']) := by
  simp
  rfl

theorem toList_displayFrom {shown : String} (hshown : shown ≠ "") (p : Path) :
    (displayFrom shown p).toList = shown.toList ++ textBehind p := by
  induction p generalizing shown with
  | nil => simp [displayFrom, textBehind]
  | cons s rest ih =>
    cases s with
    | key name =>
      have hnonempty : ¬ shown.isEmpty = true := by simpa using hshown
      rw [displayFrom, if_neg hnonempty, ih (by simp)]
      simp [textBehind]
    | index position =>
      rw [displayFrom, ih (by simp), String.toList_append, toList_display_index]
      simp [textBehind]

/-- The part that begins the text of a path. -/
def Part.first : Segment → Part
  | .key name => .ofKey name
  | .index position => Part.empty.withPosition position

theorem Part.plain_first {s : Segment}
    (hkey : ∀ name, s = .key name → Nameable name)
    (hfew : ∀ position, s = .index position →
      (Nat.toDigits 10 position).length ≤ indexDigitLimit) :
    (Part.first s).Plain ∧ (Part.first s).text ≠ [] ∧ (Part.first s).segments = [s] := by
  cases s with
  | key name =>
    have hname := hkey name rfl
    exact ⟨plain_ofKey hname, by simpa [Part.first] using hname.1, segments_ofKey hname.1⟩
  | index position =>
    have hempty : empty.Plain := ⟨⟨nofun, nofun⟩, nofun, nofun⟩
    exact ⟨hempty.withPosition (hfew position rfl), by simp [Part.first],
      segments_withPosition empty position⟩

theorem Part.text_first (s : Segment) : (Part.first s).text = s.display.toList := by
  cases s with
  | key name => exact Part.text_ofKey name
  | index position =>
    rw [Part.first, Part.text_withPosition, Part.text_empty, List.nil_append]
    exact (toList_display_index position).symm

theorem toList_display {s : Segment} (hne : s.display ≠ "") (rest : Path) :
    (display (s :: rest)).toList = s.display.toList ++ textBehind rest := by
  have hshown : displayFrom "" (s :: rest) = displayFrom s.display rest := by
    cases s with
    | key name => rfl
    | index position => rw [displayFrom, String.empty_append]; rfl
  have htext := toList_displayFrom hne rest
  have hnonempty : ¬ (displayFrom s.display rest).isEmpty = true := by
    intro hempty
    rw [String.isEmpty_iff.mp hempty] at htext
    have hnil := (List.append_eq_nil_iff.mp htext.symm).1
    exact hne (by simpa using hnil)
  rw [display, hshown]
  simp only [hnonempty]
  exact htext

theorem textBehind_append (p q : Path) : textBehind (p ++ q) = textBehind p ++ textBehind q := by
  induction p with
  | nil => rfl
  | cons s rest ih => cases s <;> simp [textBehind, ih]

theorem display_suffix_textBehind (s : Segment) : s.display.toList <:+ textBehind [s] := by
  cases s with
  | key name => exact ⟨['.'], by simp [textBehind, Segment.display]⟩
  | index position =>
    refine ⟨[], ?_⟩
    rw [Segment.display, toList_display_index]
    simp [textBehind]

/-- The text of a path ends with its last segment. -/
theorem display_suffix {s t : Segment} {rest : Path} (ht : (s :: rest).getLast? = some t) :
    t.display.toList <:+ s.display.toList ++ textBehind rest := by
  rcases List.eq_nil_or_concat' rest with rfl | ⟨front, last, rfl⟩
  · obtain rfl : s = t := Option.some.inj ht
    exact ⟨[], by simp [textBehind]⟩
  · rw [← List.cons_append, List.getLast?_concat] at ht
    obtain rfl : last = t := Option.some.inj ht
    rw [textBehind_append, ← List.append_assoc]
    exact (display_suffix_textBehind last).trans (List.suffix_append _ _)

namespace Legible

variable {s : Segment} {c : Char}

theorem display_ne (h : p.Legible) (hs : s ∈ p) : s.display ≠ "" := by
  cases s with
  | key name => exact (h.keys name hs).1
  | index position => simp [Segment.display]

theorem not_blank_first (h : p.Legible) (hs : p.head? = some s)
    (hc : s.display.toList.head? = some c) : Text.isBlank c = false := by
  cases s with
  | key name => exact h.first name c hs hc
  | index position =>
    rw [Segment.display, toList_display_index] at hc
    obtain rfl : '[' = c := Option.some.inj hc
    decide

theorem not_blank_last (h : p.Legible) (hs : p.getLast? = some s)
    (hc : s.display.toList.getLast? = some c) : Text.isBlank c = false := by
  cases s with
  | key name => exact h.last name c hs hc
  | index position =>
    rw [Segment.display, toList_display_index, ← List.cons_append, List.getLast?_concat] at hc
    obtain rfl : ']' = c := Option.some.inj hc
    decide

/-- There are no blanks around a legible path. -/
theorem trimmed_display {rest : Path} (h : Legible (s :: rest)) :
    trimmed (display (s :: rest)) = s.display.toList ++ textBehind rest := by
  obtain ⟨t, ht⟩ : ∃ t, (s :: rest).getLast? = some t := ⟨_, List.getLast?_cons⟩
  have hnonempty : ∀ u ∈ s :: rest, u.display.toList ≠ [] := by
    intro u hu
    simpa using h.display_ne hu
  rw [trimmed, toList_display (h.display_ne List.mem_cons_self)]
  refine Text.trimChars_eq_self (fun c hc => ?_) fun c hc => ?_
  · rw [List.head?_append_of_ne_nil _ (hnonempty s List.mem_cons_self)] at hc
    exact h.not_blank_first rfl hc
  · obtain ⟨front, hfront⟩ := display_suffix ht
    rw [← hfront, List.getLast?_append_of_ne_nil _ (hnonempty t (List.mem_of_getLast? ht))] at hc
    exact h.not_blank_last ht hc

/-- A legible path is read back from the text that it is shown as. -/
theorem parse_display (h : p.Legible) (hne : p ≠ []) (hfew : FewDigits p) :
    parse p.display = .ok p := by
  rcases p with _ | ⟨s, rest⟩
  · exact absurd rfl hne
  · have hs : s.display.toList ≠ [] := by simpa using h.display_ne List.mem_cons_self
    obtain ⟨hplain, hfirst, hsegments⟩ := Part.plain_first
      (fun name hname => h.keys name (hname ▸ List.mem_cons_self))
      (fun position hposition => hfew position (hposition ▸ List.mem_cons_self))
    obtain ⟨parts, hparts, hall⟩ := reads_textBehind hplain hfirst
      (fun name hname => h.keys name (List.mem_cons_of_mem s hname))
      (fun position hposition => hfew position (List.mem_cons_of_mem s hposition))
    rw [Part.text_first] at hparts
    rw [hsegments] at hall
    change parseTrimmed (trimmed (display (s :: rest))) = .ok (s :: rest)
    rw [h.trimmed_display]
    exact (parseTrimmed_eq_ok_iff (by simp [hs])).mpr ⟨parts, hparts, hall.symm⟩

end Legible

variable {cs : List Char} {parts before after : List Part}

/-- Where a part of a path stands in its text. -/
theorem piece_of_parts (h : List.Forall₂ Part.Reads parts (splitAt '.' cs))
    (hparts : parts = before ++ part :: after) :
    ∃ left piece right, cs = left ++ piece ++ right ∧ '.' ∉ piece ∧ part.Reads piece ∧
      (before = [] → left = []) ∧ (after = [] → right = []) := by
  have hread : ∀ {read : List (List Char)}, List.Forall₂ Part.Reads parts read →
      ∃ front piece back, read = front ++ piece :: back ∧ part.Reads piece ∧
        (before = [] → front = []) ∧ (after = [] → back = []) := by
    subst hparts
    clear h
    induction before with
    | nil =>
      intro read h
      cases h with
      | @cons _ piece _ back hpiece hback =>
        refine ⟨[], piece, back, rfl, hpiece, fun _ => rfl, ?_⟩
        rintro rfl
        cases hback
        rfl
    | cons other before ih =>
      intro read h
      cases h with
      | @cons _ first _ others _ hothers =>
        obtain ⟨front, piece, back, rfl, hpiece, -, hlast⟩ := ih hothers
        exact ⟨first :: front, piece, back, rfl, hpiece, nofun, hlast⟩
  obtain ⟨front, piece, back, hsplit, hpiece, hfirst, hlast⟩ := hread h
  obtain ⟨left, right, hcs, hleft, hright⟩ := exists_append_of_splitAt hsplit
  have hmem : piece ∈ splitAt '.' cs := by
    rw [hsplit]
    simp
  exact ⟨left, piece, right, hcs, not_mem_of_mem_splitAt hmem, hpiece,
    fun hnil => hleft (hfirst hnil), fun hnil => hright (hlast hnil)⟩

namespace Part

theorem key_of_mem_segments (h : .key name ∈ part.segments) :
    part.key = name.toList ∧ name ≠ "" := by
  simp only [segments, keySegments, List.mem_append, List.mem_map, reduceCtorEq, and_false,
    exists_const, or_false] at h
  by_cases hempty : part.key.isEmpty = true
  · rw [if_pos hempty] at h
    cases h
  · rw [if_neg hempty, List.mem_singleton, Segment.key.injEq] at h
    rw [h, String.toList_ofList]
    exact ⟨rfl, by simpa using hempty⟩

theorem segments_ne_nil (hne : part.text ≠ []) : part.segments ≠ [] := by
  intro hnil
  obtain ⟨hkey, hgroups⟩ := List.append_eq_nil_iff.mp hnil
  have hempty : part.key = [] := by
    by_contra hsome
    simp [keySegments, hsome] at hkey
  exact hne (by rw [text, hempty, List.map_eq_nil_iff.mp hgroups]; rfl)

/-- A part that ends with a key is a key. -/
theorem groups_of_getLast?_segments (h : part.segments.getLast? = some (.key name)) :
    part.groups = [] := by
  rcases List.eq_nil_or_concat' part.groups with hnil | ⟨front, last, hlast⟩
  · exact hnil
  · rw [segments, hlast, List.map_append, ← List.append_assoc] at h
    simp at h

end Part

/-- The characters of a key are those of the piece that it was read from. -/
theorem Part.Reads.exists_piece {piece : List Char} (h : part.Reads piece) :
    ∃ right, piece = part.key ++ right ∧ (part.groups = [] → right = []) := by
  obtain ⟨-, -, rfl | ⟨hsome, rfl⟩⟩ := part?_eq_some h.read
  · exact ⟨bracketed part.groups, rfl, fun hnone => by rw [hnone, bracketed_nil]⟩
  · exact ⟨bracketed part.groups ++ ['\n'], List.append_assoc _ _ _,
      fun hnone => absurd hnone hsome⟩

section

variable (hparts : List.Forall₂ Part.Reads parts (splitAt '.' cs))

include hparts

theorem segments_ne_nil_of_mem (hpart : part ∈ parts) : part.segments ≠ [] := by
  obtain ⟨before, after, hsplit⟩ := List.append_of_mem hpart
  obtain ⟨_, _, _, -, -, hreads, -, -⟩ := piece_of_parts hparts hsplit
  exact Part.segments_ne_nil (part?_eq_some hreads.read).2.1

/-- A key that was read ended at dots and brackets. -/
theorem chars_of_key (hname : .key name ∈ parts.flatMap Part.segments) :
    Nameable name := by
  obtain ⟨part, hpart, hmem⟩ := List.mem_flatMap.mp hname
  obtain ⟨hkey, hne⟩ := Part.key_of_mem_segments hmem
  obtain ⟨before, after, hsplit⟩ := List.append_of_mem hpart
  obtain ⟨_, piece, _, -, hundotted, hreads, -, -⟩ := piece_of_parts hparts hsplit
  obtain ⟨right, hpiece, -⟩ := hreads.exists_piece
  refine ⟨hne, fun c hc => ?_⟩
  rw [← hkey] at hc
  have hbracket := (part?_eq_some hreads.read).1.key c hc
  simp only [isBracket, Bool.or_eq_false_iff, beq_eq_false_iff_ne] at hbracket
  refine ⟨?_, hbracket⟩
  rintro rfl
  exact hundotted (hpiece ▸ List.mem_append_left right hc)

/-- A path that begins with a key was read from text that begins with it. -/
theorem isPrefix_of_first_key (hname : (parts.flatMap Part.segments).head? = some (.key name)) :
    name.toList <+: cs := by
  rcases parts with _ | ⟨part, others⟩
  · cases hname
  · have hsome := segments_ne_nil_of_mem hparts List.mem_cons_self
    rw [List.flatMap_cons, List.head?_append_of_ne_nil _ hsome] at hname
    obtain ⟨hkey, -⟩ := Part.key_of_mem_segments (List.mem_of_head? hname)
    obtain ⟨left, piece, right, hcs, -, hreads, hfirst, -⟩ :=
      piece_of_parts hparts (List.nil_append _).symm
    obtain ⟨rest, rfl, -⟩ := hreads.exists_piece
    exact ⟨rest ++ right, by simp [hcs, hfirst rfl, hkey]⟩

/-- A path that ends with a key was read from text that ends with it. -/
theorem isSuffix_of_last_key
    (hname : (parts.flatMap Part.segments).getLast? = some (.key name)) : name.toList <:+ cs := by
  rcases List.eq_nil_or_concat' parts with rfl | ⟨others, part, rfl⟩
  · cases hname
  · have hmem : part ∈ others ++ [part] := by simp
    have hsome := segments_ne_nil_of_mem hparts hmem
    rw [List.flatMap_append, List.flatMap_singleton, List.getLast?_append_of_ne_nil _ hsome]
      at hname
    obtain ⟨hkey, -⟩ := Part.key_of_mem_segments (List.mem_of_getLast? hname)
    obtain ⟨left, piece, right, hcs, -, hreads, -, hlast⟩ := piece_of_parts hparts rfl
    obtain ⟨rest, rfl, hrest⟩ := hreads.exists_piece
    have hnone := Part.groups_of_getLast?_segments hname
    exact ⟨left, by simp [hcs, hlast rfl, hrest hnone, hkey]⟩

end

theorem legible_of_parse {text : String} (h : parse text = .ok p) (hne : p ≠ []) : p.Legible := by
  have hsome : trimmed text ≠ [] := by
    intro hnil
    change parseTrimmed (trimmed text) = .ok p at h
    rw [hnil] at h
    exact hne (Except.ok.inj h).symm
  obtain ⟨parts, hparts, rfl⟩ := (parseTrimmed_eq_ok_iff hsome).mp h
  refine ⟨fun name hname => chars_of_key hparts hname, fun name c hname hc => ?_,
    fun name c hname hc => ?_⟩
  · obtain ⟨rest, hrest⟩ := isPrefix_of_first_key hparts hname
    have hfirst : (trimmed text).head? = some c := by
      rw [← hrest, List.head?_append, hc]
      rfl
    exact Text.not_of_head?_trimChars hfirst
  · obtain ⟨front, hfront⟩ := isSuffix_of_last_key hparts hname
    have hlast : (trimmed text).getLast? = some c := by
      rw [← hfront, List.getLast?_append, hc]
      rfl
    exact Text.not_of_getLast?_trimChars hlast

/-- A path other than the root is read from some text exactly if it is legible, and then it is read
back from the text that it is shown as. -/
theorem parse_eq_ok_iff_legible (hne : p ≠ []) (hfew : FewDigits p) :
    ((∃ text, parse text = .ok p) ↔ p.Legible) ∧ (p.Legible → parse p.display = .ok p) := by
  have hback : p.Legible → parse p.display = .ok p := fun h => h.parse_display hne hfew
  refine ⟨⟨?_, fun h => ⟨p.display, hback h⟩⟩, hback⟩
  rintro ⟨text, hread⟩
  exact legible_of_parse hread hne

/-- A path with positions at both ends, and with blanks and a line break in its keys. -/
def gridPath : Path := [.index 0, .index 12, .key " row\n", .key "col ", .index 3]

theorem parse_eq_ok_iff_legible_grid :
    gridPath ≠ [] ∧ gridPath.FewDigits ∧ gridPath.display = "[0][12]. row\n.col [3]" ∧
    gridPath.Legible ∧ parse gridPath.display = .ok gridPath := by
  have hne : gridPath ≠ [] := by decide
  have hfew : gridPath.FewDigits := by
    intro position hposition
    simp only [gridPath, List.mem_cons, Segment.index.injEq, reduceCtorEq, List.not_mem_nil,
      false_or, or_false] at hposition
    rcases hposition with rfl | rfl | rfl <;> decide
  have hread : ∃ text, parse text = .ok gridPath :=
    ⟨"[0][012]. row\n.col [3]", by with_unfolding_all rfl⟩
  have hlegible := (parse_eq_ok_iff_legible hne hfew).1.mp hread
  exact ⟨hne, hfew, rfl, hlegible, (parse_eq_ok_iff_legible hne hfew).2 hlegible⟩

end RowIngest.Path
