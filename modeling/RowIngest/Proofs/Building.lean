import Mathlib.Data.List.Induction
import RowIngest.Proofs.Placing
/-!
What values build that are placed one after the other. Seen from a container, the placements
behind each of its segments build what the container has there. The invariant of a document says
this of all its containers at once, and that a container is no larger than its placements make it.
Main statements: placing one more value keeps the invariant, and a document that is assembled from
fields whose paths do not overlap is built of the values that the row gives to them.
-/
namespace RowIngest

namespace Document

/-- A value, and the path to its place. -/
abbrev Placement := Path × Value

/-- The placements behind a segment, as they are seen from there. -/
def under (s : Segment) (ps : List Placement) : List Placement :=
  ps.filterMap fun p =>
    match p.1 with
    | [] => none
    | t :: rest => if t = s then some (rest, p.2) else none

/-- The placements behind a path. -/
def behind : Path → List Placement → List Placement
  | [], ps => ps
  | s :: q, ps => behind q (under s ps)

/-- The keys that the paths begin with, in the order in which they come first. -/
def firstKeys (ps : List Placement) : List String :=
  (ps.filterMap fun p =>
    match p.1 with
    | .key name :: _ => some name
    | _ => none).eraseDups

/-- How long an array has to be for the positions that the paths begin with. -/
def extent (ps : List Placement) : Nat :=
  ps.foldl (fun n p =>
    match p.1 with
    | .index position :: _ => max n (position + 1)
    | _ => n) 0

variable {ps : List Placement} {p q rest : Path} {s t : Segment} {v w : Value} {name : String}
  {position : Nat}

theorem mem_under : (p, v) ∈ under s ps ↔ (s :: p, v) ∈ ps := by
  simp only [under, List.mem_filterMap]
  constructor
  · rintro ⟨⟨path, w⟩, hmem, hfound⟩
    cases path with
    | nil => cases hfound
    | cons t rest =>
      by_cases hts : t = s
      · simp only [hts, if_true, Option.some.injEq, Prod.mk.injEq] at hfound
        rwa [hts, hfound.1, hfound.2] at hmem
      · simp [hts] at hfound
  · intro hmem
    exact ⟨_, hmem, by simp⟩

theorem under_ne_nil_iff : under s ps ≠ [] ↔ ∃ p v, (s :: p, v) ∈ ps := by
  constructor
  · intro hne
    obtain ⟨⟨p, v⟩, hmem⟩ := List.exists_mem_of_ne_nil _ hne
    exact ⟨p, v, mem_under.mp hmem⟩
  · rintro ⟨p, v, hmem⟩ hnil
    have hunder : (p, v) ∈ under s ps := mem_under.mpr hmem
    rw [hnil] at hunder
    cases hunder

theorem under_concat_self (s : Segment) (ps : List Placement) (p : Path) (v : Value) :
    under s (ps ++ [(s :: p, v)]) = under s ps ++ [(p, v)] := by
  simp [under]

theorem under_concat_of_ne (h : t ≠ s) (ps : List Placement) (p : Path) (v : Value) :
    under t (ps ++ [(s :: p, v)]) = under t ps := by
  simp [under, Ne.symm h]

theorem mem_behind : (p, v) ∈ behind q ps ↔ (q ++ p, v) ∈ ps := by
  induction q generalizing ps with
  | nil => rfl
  | cons s q ih => rw [behind, ih, mem_under, List.cons_append]

/-- No placement is at this path, or leads through it, or is on the way to it. -/
def ApartFrom (ps : List Placement) (p : Path) : Prop :=
  ∀ q w, (q, w) ∈ ps → Mapping.pathsOverlap q p = false

theorem ApartFrom.ne_nil (h : ApartFrom ps p) : ∀ q w, (q, w) ∈ ps → q ≠ [] := by
  rintro q w hmem rfl
  have hempty := h [] w hmem
  simp [Mapping.pathsOverlap] at hempty

theorem ApartFrom.under (h : ApartFrom ps (s :: p)) : ApartFrom (under s ps) p := by
  intro q w hmem
  rw [← Mapping.pathsOverlap_cons s]
  exact h _ _ (mem_under.mp hmem)

theorem mem_firstKeys : name ∈ firstKeys ps ↔ under (.key name) ps ≠ [] := by
  rw [under_ne_nil_iff, firstKeys, List.mem_eraseDups, List.mem_filterMap]
  constructor
  · rintro ⟨⟨path, v⟩, hmem, hfound⟩
    split at hfound
    · rename_i first rest hpath
      obtain rfl := Option.some.inj hfound
      obtain rfl : path = _ := hpath
      exact ⟨rest, v, hmem⟩
    · cases hfound
  · rintro ⟨p, v, hmem⟩
    exact ⟨_, hmem, rfl⟩

theorem firstKeys_concat (name : String) (ps : List Placement) (p : Path) (v : Value) :
    firstKeys (ps ++ [(.key name :: p, v)]) =
      if name ∈ firstKeys ps then firstKeys ps else firstKeys ps ++ [name] := by
  have hsingle : [name].eraseDups = [name] := by
    simp [List.eraseDups_cons]
  simp only [firstKeys, List.filterMap_append, List.filterMap_cons, List.filterMap_nil,
    List.eraseDups_append, List.mem_eraseDups]
  split
  · rename_i hmem
    simp [List.removeAll, hmem]
  · rename_i hmem
    simp [List.removeAll, hmem, hsingle]

theorem firstKeys_concat_index (position : Nat) (ps : List Placement) (p : Path) (v : Value) :
    firstKeys (ps ++ [(.index position :: p, v)]) = firstKeys ps := by
  simp [firstKeys]

theorem extent_concat (position : Nat) (ps : List Placement) (p : Path) (v : Value) :
    extent (ps ++ [(.index position :: p, v)]) = max (extent ps) (position + 1) := by
  simp [extent]

theorem extent_concat_key (name : String) (ps : List Placement) (p : Path) (v : Value) :
    extent (ps ++ [(.key name :: p, v)]) = extent ps := by
  simp [extent]

theorem nodup_firstKeys (ps : List Placement) : (firstKeys ps).Nodup := by
  induction ps using List.reverseRecOn with
  | nil => exact List.nodup_nil
  | append_singleton ps p ih =>
    obtain ⟨_ | ⟨name | position, rest⟩, v⟩ := p
    · simpa [firstKeys] using ih
    · rw [firstKeys_concat]
      split
      · exact ih
      · rename_i hnew
        rw [List.nodup_append]
        refine ⟨ih, by simp, fun a ha b hb hab => hnew ?_⟩
        rwa [hab, List.mem_singleton.mp hb] at ha
    · rwa [firstKeys_concat_index]

/-- The extent of placements is just enough for the greatest position among them. -/
theorem extent_spec (ps : List Placement) :
    (∀ position, under (.index position) ps ≠ [] → position < extent ps) ∧
      ∀ n, extent ps = n + 1 → under (.index n) ps ≠ [] := by
  induction ps using List.reverseRecOn with
  | nil =>
    constructor
    · intro position hne
      exact absurd rfl hne
    · intro n hn
      cases hn
  | append_singleton ps p ih =>
    obtain ⟨hbound, hreached⟩ := ih
    obtain ⟨_ | ⟨name | last, rest⟩, v⟩ := p
    · simpa [extent, under] using And.intro hbound hreached
    · rw [extent_concat_key]
      constructor
      · intro position hne
        rw [under_concat_of_ne (by simp)] at hne
        exact hbound position hne
      · intro n hn
        rw [under_concat_of_ne (by simp)]
        exact hreached n hn
    · rw [extent_concat]
      constructor
      · intro position hne
        by_cases hlast : position = last
        · omega
        · rw [under_concat_of_ne (by simpa using hlast)] at hne
          have hbefore := hbound position hne
          omega
      · intro n hn
        by_cases hlast : n = last
        · rw [hlast, under_concat_self]
          simp
        · rw [under_concat_of_ne (by simpa using hlast)]
          exact hreached n (by omega)

/-- A segment leads into a container of its own kind. -/
def Suits : Value → Segment → Prop
  | .obj _, .key _ => True
  | .list _, .index _ => True
  | _, _ => False

/-- A container is as large as these placements make it, with its keys in their order. -/
def Spans (ps : List Placement) : Value → Prop
  | .obj entries => Fields.names entries = firstKeys ps
  | .list items => items.length = extent ps
  | _ => False

/-- A document is what these placements build: a single value that has no path left, or a
container that all of them lead into, with null where an array is filled up. -/
inductive Built : List Placement → Value → Prop
  | value {v : Value} (hv : v.isNull = false) : Built [([], v)] v
  | container {ps : List Placement} {d : Value} (hspans : Spans ps d)
      (hsuits : ∀ p v, (p, v) ∈ ps → ∃ s rest, p = s :: rest ∧ Suits d s)
      (hbuilt : ∀ s w, child? d s = some w → under s ps ≠ [] → Built (under s ps) w)
      (hfilled : ∀ s w, child? d s = some w → under s ps = [] → w = .null) : Built ps d

variable {room : Room} {d d' inner : Value} {shown : String}

theorem length_setAt {α : Type} (filling : α) (items : List α) (position : Nat) (v : α) :
    (setAt filling items position v).length = max items.length (position + 1) := by
  unfold setAt
  split
  · rw [List.length_set]
    omega
  · simp only [List.length_append, List.length_replicate, List.length_singleton]
    omega

/-- At another position a list has what it had, or it is filled up there. -/
theorem getElem?_setAt_cases {α : Type} {filling a b : α} {items : List α} {other : Nat}
    (hne : other ≠ position) (h : (setAt filling items position a)[other]? = some b) :
    items[other]? = some b ∨ items[other]? = none ∧ b = filling := by
  unfold setAt at h
  split at h
  · left
    rwa [List.getElem?_set_ne hne.symm] at h
  · rw [List.append_assoc] at h
    by_cases hother : other < items.length
    · left
      rwa [List.getElem?_append_left hother] at h
    · right
      refine ⟨List.getElem?_eq_none (by omega), ?_⟩
      rw [List.getElem?_append_right (by omega), List.getElem?_append] at h
      split at h
      · exact (List.eq_of_mem_replicate (List.mem_of_getElem? h)).symm ▸ rfl
      · rename_i hlate
        rw [List.length_replicate] at hlate h
        rw [List.getElem?_eq_none (by simp; omega)] at h
        cases h

theorem Suits.isIndex_eq (hs : Suits d s) (ht : Suits d t) : s.isIndex = t.isIndex := by
  cases d <;> cases s <;> cases t <;> simp_all [Suits, Segment.isIndex]

theorem suits_emptyFor (s : Segment) : Suits (emptyFor s) s := by
  cases s <;> trivial

theorem containerAt_of_null (h : slot d s = .null) :
    containerAt room shown d s t = (put room shown d s (emptyFor t)).map fun _ => emptyFor t := by
  unfold containerAt
  rw [h]

theorem containerAt_of_suits (h : Suits (slot d s) t) :
    containerAt room shown d s t = .ok (slot d s) := by
  unfold containerAt
  cases hslot : slot d s <;> cases t <;> simp_all [Suits]

theorem containerAt_of_not_suits (hnull : slot d s ≠ .null) (h : ¬ Suits (slot d s) t) :
    containerAt room shown d s t = .error (wrongContainer shown t) := by
  unfold containerAt
  cases hslot : slot d s <;> cases t <;> simp_all [Suits]

theorem suits_of_child? (h : child? d s = some w) : Suits d s := by
  cases d <;> cases s <;> simp_all [child?, Suits]

theorem suits_of_put (h : put room shown d s w = .ok d') :
    Suits d' s ∧ ∀ t, Suits d' t ↔ Suits d t := by
  cases s with
  | key name =>
    cases d with
    | obj entries =>
      obtain rfl := Except.ok.inj h
      exact ⟨trivial, fun t => by cases t <;> rfl⟩
    | _ => cases h
  | index position =>
    cases d with
    | list items =>
      rcases hroom : checkRoom room items.length position with e | _ <;>
        simp only [put, hroom, Except.map, reduceCtorEq, Except.ok.injEq] at h
      subst h
      exact ⟨trivial, fun t => by cases t <;> rfl⟩
    | _ => cases h

namespace Spans

theorem child?_of_under (h : Spans ps d) (hsuits : Suits d s) (hne : under s ps ≠ []) :
    ∃ w, child? d s = some w := by
  cases s with
  | key name =>
    cases d with
    | obj entries =>
      have hname : name ∈ Fields.names entries := by
        rw [h]
        exact mem_firstKeys.mpr hne
      exact Fields.mem_names_iff.mp hname
    | _ => cases hsuits
  | index position =>
    cases d with
    | list items =>
      have hlt : position < items.length := by
        rw [h]
        exact (extent_spec ps).1 position hne
      exact ⟨items[position], List.getElem?_eq_getElem hlt⟩
    | _ => cases hsuits

/-- Where nothing is placed behind a segment, an array is filled up to a greater position. -/
theorem filled (h : Spans ps d) (hchild : child? d s = some w) (hnone : under s ps = []) :
    ∃ position other, s = .index position ∧ position < other ∧ under (.index other) ps ≠ [] := by
  cases s with
  | key name =>
    cases d with
    | obj entries =>
      have hname : name ∈ Fields.names entries := Fields.mem_names_iff.mpr ⟨w, hchild⟩
      rw [h, mem_firstKeys] at hname
      exact absurd hnone hname
    | _ => cases hchild
  | index position =>
    cases d with
    | list items =>
      have hlt : position < items.length := (List.getElem?_eq_some_iff.mp hchild).1
      rw [h] at hlt
      obtain ⟨n, hn⟩ : ∃ n, extent ps = n + 1 := ⟨extent ps - 1, by omega⟩
      have hlast := (extent_spec ps).2 n hn
      have hne : position ≠ n := by
        rintro rfl
        exact hlast hnone
      exact ⟨position, n, rfl, by omega, hlast⟩
    | _ => cases hchild

theorem put (h : Spans ps d) (hput : Document.put room shown d s w = .ok d') (p : Path)
    (v : Value) : Spans (ps ++ [(s :: p, v)]) d' := by
  cases s with
  | key name =>
    cases d with
    | obj entries =>
      obtain rfl := Except.ok.inj hput
      have hnames : Fields.names entries = firstKeys ps := h
      change Fields.names (Fields.set entries name w) = _
      rw [Fields.names_set, firstKeys_concat, hnames]
    | _ => cases hput
  | index position =>
    cases d with
    | list items =>
      rcases hroom : checkRoom room items.length position with e | _ <;>
        simp only [Document.put, hroom, Except.map, reduceCtorEq, Except.ok.injEq] at hput
      subst hput
      have hlength : items.length = extent ps := h
      change (setAt Value.null items position w).length = _
      rw [length_setAt, extent_concat, hlength]
    | _ => cases hput

end Spans

/-- What is there after a value was put has been there before, or it is the value, or it fills an
array up. -/
theorem child?_put_cases (h : put room shown d s v = .ok d') (hchild : child? d' t = some w)
    (hne : t ≠ s) : child? d t = some w ∨ child? d t = none ∧ w = .null := by
  cases s with
  | key name =>
    cases d with
    | obj entries =>
      obtain rfl := Except.ok.inj h
      cases t with
      | key other =>
        have hother : other ≠ name := fun heq => hne (congrArg Segment.key heq)
        left
        exact (Fields.get?_set_of_ne entries v hother).symm.trans hchild
      | index position => cases hchild
    | _ => cases h
  | index position =>
    cases d with
    | list items =>
      rcases hroom : checkRoom room items.length position with e | _ <;>
        simp only [put, hroom, Except.map, reduceCtorEq, Except.ok.injEq] at h
      subst h
      cases t with
      | key name => cases hchild
      | index other =>
        have hother : other ≠ position := fun heq => hne (congrArg Segment.index heq)
        exact getElem?_setAt_cases hother hchild
    | _ => cases h

namespace Built

/-- What the placements behind a segment build takes in one placement more. -/
theorem put (h : Built ps d) (hpath : ∀ p v, (p, v) ∈ ps → p ≠ [])
    (hinner : Built (under s ps ++ [(p, v)]) inner)
    (hput : Document.put room shown d s inner = .ok d') : Built (ps ++ [(s :: p, v)]) d' := by
  cases h with
  | value _ => exact absurd rfl (hpath [] d (List.mem_singleton_self _))
  | container hspans hsuits hbuilt hfilled =>
    obtain ⟨hself, hothers⟩ := suits_of_put hput
    refine .container (hspans.put hput p v) ?_ ?_ ?_
    · intro path w hmem
      rcases List.mem_append.mp hmem with hmem | hmem
      · obtain ⟨t, rest, rfl, ht⟩ := hsuits path w hmem
        exact ⟨t, rest, rfl, (hothers t).mpr ht⟩
      · obtain ⟨rfl, rfl⟩ := Prod.mk.inj (List.mem_singleton.mp hmem)
        exact ⟨s, p, rfl, hself⟩
    · intro t w hchild hne
      by_cases hts : t = s
      · subst hts
        have hw : inner = w := Option.some.inj ((child?_of_put hput).1.symm.trans hchild)
        rw [under_concat_self, ← hw]
        exact hinner
      · rw [under_concat_of_ne hts] at hne ⊢
        rcases child?_put_cases hput hchild hts with hbefore | ⟨hnone, -⟩
        · exact hbuilt t w hbefore hne
        · have ht : Suits d t := (hothers t).mp (suits_of_child? hchild)
          obtain ⟨u, hu⟩ := hspans.child?_of_under ht hne
          rw [hnone] at hu
          cases hu
    · intro t w hchild hnil
      by_cases hts : t = s
      · rw [hts, under_concat_self] at hnil
        simp at hnil
      · rw [under_concat_of_ne hts] at hnil
        rcases child?_put_cases hput hchild hts with hbefore | ⟨-, rfl⟩
        · exact hfilled t w hbefore hnil
        · rfl

theorem ne_null (h : Built ps d) : d ≠ .null := by
  rintro rfl
  cases h with
  | value hv => cases hv
  | container hspans _ _ _ => exact hspans

theorem spans (h : Built ps d) (hpath : ∀ p v, (p, v) ∈ ps → p ≠ []) : Spans ps d := by
  cases h with
  | value _ => exact absurd rfl (hpath [] d (List.mem_singleton_self _))
  | container hspans _ _ _ => exact hspans

theorem suits (h : Built ps d) (hpath : ∀ p v, (p, v) ∈ ps → p ≠ []) (hmem : (s :: p, v) ∈ ps) :
    Suits d s := by
  cases h with
  | value _ => exact absurd rfl (hpath [] d (List.mem_singleton_self _))
  | container _ hsuits _ _ =>
    obtain ⟨t, rest, hp, ht⟩ := hsuits _ _ hmem
    obtain ⟨rfl, -⟩ := List.cons.inj hp
    exact ht

theorem emptyFor (s : Segment) : Built [] (emptyFor s) := by
  cases s with
  | key name => exact .container rfl nofun nofun nofun
  | index position => exact .container rfl nofun nofun nofun

/-- A container has null at a segment where nothing is placed, and elsewhere what the placements
there have built. -/
theorem slot_cases (h : Built ps d) (hpath : ∀ p v, (p, v) ∈ ps → p ≠ []) (s : Segment) :
    under s ps = [] ∧ slot d s = .null ∨
      under s ps ≠ [] ∧ child? d s = some (slot d s) ∧ Built (under s ps) (slot d s) := by
  cases h with
  | value _ => exact absurd rfl (hpath [] d (List.mem_singleton_self _))
  | container hspans hsuits hbuilt hfilled =>
    rw [slot_eq]
    by_cases hnone : under s ps = []
    · left
      rcases hchild : child? d s with _ | w
      · exact ⟨hnone, rfl⟩
      · exact ⟨hnone, hfilled s w hchild hnone⟩
    · right
      obtain ⟨p, v, hmem⟩ := under_ne_nil_iff.mp hnone
      obtain ⟨t, rest, hp, ht⟩ := hsuits _ _ hmem
      obtain ⟨rfl, -⟩ := List.cons.inj hp
      obtain ⟨w, hchild⟩ := hspans.child?_of_under ht hnone
      rw [hchild]
      exact ⟨hnone, rfl, hbuilt s w hchild hnone⟩

/-- The container that the next segment leads into is built by the placements there. -/
theorem containerAt (h : Built ps d) (hpath : ∀ p v, (p, v) ∈ ps → p ≠ [])
    (hc : Document.containerAt room shown d s t = .ok inner) :
    Built (under s ps) inner ∧ Suits inner t := by
  rcases h.slot_cases hpath s with ⟨hnone, hslot⟩ | ⟨-, -, hbuilt⟩
  · have hinner : inner = Document.emptyFor t := by
      rw [containerAt_of_null hslot] at hc
      rcases hput : Document.put room shown d s (Document.emptyFor t) with e | made
      · rw [hput] at hc
        cases hc
      · rw [hput] at hc
        exact (Except.ok.inj hc).symm
    rw [hnone, hinner]
    exact ⟨emptyFor t, suits_emptyFor t⟩
  · have hsuits : Suits (slot d s) t := by
      by_contra hnot
      rw [containerAt_of_not_suits hbuilt.ne_null hnot] at hc
      cases hc
    rw [containerAt_of_suits hsuits] at hc
    obtain rfl := Except.ok.inj hc
    exact ⟨hbuilt, hsuits⟩

/-- A value that is placed apart from the others is one more that the document is built of. -/
theorem place (h : Built ps d) (hv : v.isNull = false) (hapart : ApartFrom ps (s :: p))
    (hplace : Document.place room shown v d s p = .ok d') : Built (ps ++ [(s :: p, v)]) d' := by
  induction p generalizing ps d d' s with
  | nil =>
    have hnone : under s ps = [] := by
      by_contra hne
      obtain ⟨⟨q, w⟩, hmem⟩ := List.exists_mem_of_ne_nil _ hne
      have hover := hapart.under q w hmem
      simp [Mapping.pathsOverlap] at hover
    refine h.put hapart.ne_nil ?_ hplace
    rw [hnone]
    exact .value hv
  | cons t p ih =>
    obtain ⟨inner, inner', hc, hinner, hput⟩ := place_cons.mp hplace
    obtain ⟨hbuilt, -⟩ := h.containerAt hapart.ne_nil hc
    exact h.put hapart.ne_nil (ih hbuilt hapart.under hinner) hput

/-- Paths with a common start go on into the same container, and so by the same kind of segment. -/
theorem same_kind {common : Path} (h : Built ps d) (hleft : (common ++ s :: p, v) ∈ ps)
    (hright : (common ++ t :: q, w) ∈ ps) : s.isIndex = t.isIndex := by
  induction common generalizing ps d with
  | nil =>
    cases h with
    | value _ => simp at hleft
    | container _ hsuits _ _ =>
      obtain ⟨s', _, hs, hs'⟩ := hsuits _ _ hleft
      obtain ⟨t', _, ht, ht'⟩ := hsuits _ _ hright
      obtain ⟨rfl, -⟩ := List.cons.inj hs
      obtain ⟨rfl, -⟩ := List.cons.inj ht
      exact hs'.isIndex_eq ht'
  | cons u common ih =>
    cases h with
    | value _ => simp at hleft
    | container hspans hsuits hbuilt _ =>
      obtain ⟨u', _, hu, hu'⟩ := hsuits _ _ hleft
      obtain ⟨rfl, -⟩ := List.cons.inj hu
      have hne : under u ps ≠ [] := under_ne_nil_iff.mpr ⟨_, _, hleft⟩
      obtain ⟨inner, hchild⟩ := hspans.child?_of_under hu' hne
      exact ih (hbuilt u inner hchild hne) (mem_under.mpr hleft) (mem_under.mpr hright)

end Built

theorem suits_of_place (h : place room shown v d s p = .ok d') (t : Segment) :
    Suits d' t ↔ Suits d t := by
  cases p with
  | nil => exact (suits_of_put h).2 t
  | cons next rest =>
    obtain ⟨_, _, -, -, hput⟩ := place_cons.mp h
    exact (suits_of_put hput).2 t

end Document

namespace FieldMapping

variable {f : FieldMapping} {row : Row} {p : Path} {v : Value}

/-- The value that the row gives, with the path to its place. -/
def placement? (f : FieldMapping) (row : Row) : Option Document.Placement :=
  match f.value row with
  | .ok v => if v.isNull then none else some (f.path, v)
  | .error _ => none

theorem placement?_of_gives (h : f.Gives row v) : f.placement? row = some (f.path, v) := by
  simp [placement?, h.1, h.2]

theorem placement?_eq_some_iff : f.placement? row = some (p, v) ↔ f.path = p ∧ f.Gives row v := by
  constructor
  · intro h
    rcases hvalue : f.value row with e | given
    · simp [placement?, hvalue] at h
    · simp only [placement?, hvalue, Option.ite_none_left_eq_some, Option.some.injEq,
        Prod.mk.injEq, Bool.not_eq_true] at h
      obtain ⟨hnull, rfl, rfl⟩ := h
      exact ⟨rfl, hvalue, hnull⟩
  · rintro ⟨rfl, hv⟩
    exact placement?_of_gives hv

theorem placement?_of_not_gives (h : ∀ v, ¬ f.Gives row v) : f.placement? row = none := by
  rcases hplaced : f.placement? row with _ | ⟨p, v⟩
  · rfl
  · exact absurd (placement?_eq_some_iff.mp hplaced).2 (h v)

end FieldMapping

namespace Document

/-- The values that a row gives to these fields, with the paths to their places. -/
def placements (fields : List FieldMapping) (row : Row) : List Placement :=
  fields.filterMap (·.placement? row)

variable {fields before : List FieldMapping} {row : Row} {ps : List Placement}
  {d d' root v : Value} {p : Path} {f : FieldMapping} {s : Segment}

theorem mem_placements :
    (p, v) ∈ placements fields row ↔ ∃ f ∈ fields, f.path = p ∧ f.Gives row v := by
  simp only [placements, List.mem_filterMap, FieldMapping.placement?_eq_some_iff]

theorem apartFrom_of_apart {after : List FieldMapping}
    (h : Mapping.Apart (before ++ f :: after)) : ApartFrom (placements before row) f.path := by
  intro q w hmem
  obtain ⟨g, hg, rfl, -⟩ := mem_placements.mp hmem
  exact (List.pairwise_append.mp h).2.2 g hg f List.mem_cons_self

theorem suits_of_addField (h : addField room row d f = .ok d') : Suits d' s ↔ Suits d s := by
  rcases addField_cases h with ⟨v, -, hplaced⟩ | ⟨rfl, -⟩
  · obtain ⟨t, rest, -, hplace⟩ := placeField_eq_ok hplaced
    exact suits_of_place hplace s
  · rfl

namespace Built

/-- A field adds its value, if it has one, to what the document is built of. -/
theorem addField (h : Built ps d) (hadd : Document.addField room row d f = .ok d')
    (hapart : ApartFrom ps f.path) : Built (ps ++ placements [f] row) d' := by
  rcases addField_cases hadd with ⟨v, hv, hplaced⟩ | ⟨rfl, hnone⟩
  · obtain ⟨s, rest, hpath, hplace⟩ := placeField_eq_ok hplaced
    rw [hpath] at hapart
    simpa [placements, FieldMapping.placement?_of_gives hv, hpath] using
      h.place hv.2 hapart hplace
  · simpa [placements, FieldMapping.placement?_of_not_gives hnone] using h

theorem foldlM (h : Built (placements before row) d)
    (hmade : fields.foldlM (Document.addField room row) d = .ok d')
    (hapart : Mapping.Apart (before ++ fields)) : Built (placements (before ++ fields) row) d' := by
  induction fields generalizing before d with
  | nil =>
    obtain rfl : d = d' := Except.ok.inj hmade
    rwa [List.append_nil]
  | cons f rest ih =>
    obtain ⟨d₁, hone, hrest⟩ := foldlM_cons_ok.mp hmade
    have hbefore : Built (placements (before ++ [f]) row) d₁ := by
      rw [placements, List.filterMap_append]
      exact h.addField hone (apartFrom_of_apart hapart)
    rw [List.append_cons] at hapart ⊢
    exact ih hbefore hrest hapart

end Built

/-- Fields whose paths do not overlap build a document of the values that the row gives them. -/
theorem built_of_foldlM (hroot : Built [] root)
    (hmade : fields.foldlM (addField room row) root = .ok d) (hapart : Mapping.Apart fields) :
    Built (placements fields row) d := by
  have hnone : Built (placements [] row) root := hroot
  exact hnone.foldlM hmade hapart

end Document

namespace DocumentPlan

variable {room : Room} {fields : List FieldMapping} {shape : Shape} {supplied : Bool}
  {plan : DocumentPlan}

theorem built_root (hplan : make room fields shape supplied = .ok plan) :
    Document.Built [] plan.root := by
  cases shape with
  | object =>
    obtain rfl := Except.ok.inj hplan
    exact Document.Built.emptyFor (.key "")
  | array =>
    obtain rfl := Except.ok.inj hplan
    exact Document.Built.emptyFor (.index 0)
  | inconsistent => cases hplan

/-- The root of the documents is a container for the first segment of every path. -/
theorem suits_root (hplan : make room fields (Shape.ofFields fields) supplied = .ok plan)
    {f : FieldMapping} {s : Segment} {rest : Path} (hf : f ∈ fields) (hpath : f.path = s :: rest) :
    Document.Suits plan.root s := by
  have hfirst : s ∈ fields.filterMap fun g => g.path.head? :=
    List.mem_filterMap.mpr ⟨f, hf, by rw [hpath]; rfl⟩
  unfold Shape.ofFields at hplan
  split at hplan
  · rename_i hvotes
    obtain rfl := Except.ok.inj hplan
    have hindexes : (fields.filterMap fun g => g.path.head?).countP (·.isIndex) = 0 :=
      congrArg Prod.fst hvotes
    have hkey := List.countP_eq_zero.mp hindexes s hfirst
    cases s with
    | key name => trivial
    | index position => exact absurd rfl hkey
  · rename_i hvotes
    obtain rfl := Except.ok.inj hplan
    have hkeys : (fields.filterMap fun g => g.path.head?).countP (!·.isIndex) = 0 :=
      congrArg Prod.snd hvotes
    have hindex := List.countP_eq_zero.mp hkeys s hfirst
    cases s with
    | key name => exact absurd rfl hindex
    | index position => trivial
  · cases hplan

end DocumentPlan

end RowIngest
