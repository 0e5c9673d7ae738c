import RowIngest.Text.Utf8
/-!
Bytes and the text that they are. A character that was begun is completed by the bytes that are
owed for it, and these are the bytes that the character is written with. Main statement: bytes are
decoded exactly if they are the UTF-8 form of a text, and then into the characters of that text.
-/
namespace RowIngest.Text.Utf8

open String (utf8EncodeChar)

variable {n pos : Nat} {halves : Bool} {c : Char} {b : UInt8} {bs bytes : List UInt8}
  {cs done : List Char} {p : Pending}

theorem toNat_charOf (h : n.isValidChar) : (charOf n).toNat = n := by
  have hhalf : ¬ (0xD800 ≤ n && n < 0xE000) = true := by
    simp only [Nat.isValidChar] at h
    simp
    omega
  rw [charOf, if_neg hhalf, Char.ofNat, dif_pos h]
  rfl

theorem charOf_toNat (c : Char) : charOf c.toNat = c := by
  have hhalf : ¬ (0xD800 ≤ c.toNat && c.toNat < 0xE000) = true := by
    have hvalid : c.toNat.isValidChar := c.valid
    simp only [Nat.isValidChar] at hvalid
    simp
    omega
  rw [charOf, if_neg hhalf, Char.ofNat_toNat]

/-- The bytes of a character, by its number. -/
theorem encode_charOf (hvalid : n.isValidChar) : utf8EncodeChar (charOf n) =
    if n ≤ 127 then [UInt8.ofNat n]
    else if n ≤ 2047 then [UInt8.ofNat (n / 64 % 32 + 192), UInt8.ofNat (n % 64 + 128)]
    else if n ≤ 65535 then
      [UInt8.ofNat (n / 4096 % 16 + 224), UInt8.ofNat (n / 64 % 64 + 128),
        UInt8.ofNat (n % 64 + 128)]
    else
      [UInt8.ofNat (n / 262144 % 8 + 240), UInt8.ofNat (n / 4096 % 64 + 128),
        UInt8.ofNat (n / 64 % 64 + 128), UInt8.ofNat (n % 64 + 128)] := by
  have hn : (charOf n).val.toNat = n := toNat_charOf hvalid
  simp only [utf8EncodeChar, hn]

section

variable {x y z w : Nat}

theorem encode_one (hx : x < 128) : utf8EncodeChar (charOf x) = [UInt8.ofNat x] := by
  have hvalid : x.isValidChar := .inl (by omega)
  rw [encode_charOf hvalid, if_pos (by omega)]

theorem encode_two (hx : 2 ≤ x ∧ x < 32) (hy : y < 64) :
    utf8EncodeChar (charOf (x * 64 + y)) = [UInt8.ofNat (x + 192), UInt8.ofNat (y + 128)] := by
  have hvalid : (x * 64 + y).isValidChar := .inl (by omega)
  have hfirst : (x * 64 + y) / 64 % 32 = x := by omega
  have hsecond : (x * 64 + y) % 64 = y := by omega
  rw [encode_charOf hvalid, if_neg (by omega), if_pos (by omega), hfirst, hsecond]

theorem encode_three (hx : x < 16) (hy : y < 64) (hz : z < 64) (hlow : x = 0 → 32 ≤ y)
    (hhalf : x = 13 → y < 32) : utf8EncodeChar (charOf ((x * 64 + y) * 64 + z)) =
      [UInt8.ofNat (x + 224), UInt8.ofNat (y + 128), UInt8.ofNat (z + 128)] := by
  have hvalid : ((x * 64 + y) * 64 + z).isValidChar := by
    simp only [Nat.isValidChar]
    omega
  have hfirst : ((x * 64 + y) * 64 + z) / 4096 % 16 = x := by omega
  have hsecond : ((x * 64 + y) * 64 + z) / 64 % 64 = y := by omega
  have hthird : ((x * 64 + y) * 64 + z) % 64 = z := by omega
  rw [encode_charOf hvalid, if_neg (by omega), if_neg (by omega), if_pos (by omega), hfirst,
    hsecond, hthird]

theorem encode_four (hx : x < 5) (hy : y < 64) (hz : z < 64) (hw : w < 64)
    (hlow : x = 0 → 16 ≤ y) (hhigh : x = 4 → y < 16) :
    utf8EncodeChar (charOf (((x * 64 + y) * 64 + z) * 64 + w)) =
      [UInt8.ofNat (x + 240), UInt8.ofNat (y + 128), UInt8.ofNat (z + 128),
        UInt8.ofNat (w + 128)] := by
  have hvalid : (((x * 64 + y) * 64 + z) * 64 + w).isValidChar := by
    simp only [Nat.isValidChar]
    omega
  have hfirst : (((x * 64 + y) * 64 + z) * 64 + w) / 262144 % 8 = x := by omega
  have hsecond : (((x * 64 + y) * 64 + z) * 64 + w) / 4096 % 64 = y := by omega
  have hthird : (((x * 64 + y) * 64 + z) * 64 + w) / 64 % 64 = z := by omega
  have hfourth : (((x * 64 + y) * 64 + z) * 64 + w) % 64 = w := by omega
  rw [encode_charOf hvalid, if_neg (by omega), if_neg (by omega), if_neg (by omega), hfirst,
    hsecond, hthird, hfourth]

end

theorem ofNat_sub_add {k : Nat} (h : k ≤ b.toNat) : UInt8.ofNat (b.toNat - k + k) = b := by
  rw [Nat.sub_add_cancel h, UInt8.ofNat_toNat]

/-- Bytes that complete a character that was begun, and the character. -/
inductive Completes : Pending → List UInt8 → Char → Prop
  | last {p : Pending} {b : UInt8} (howed : p.owed ≤ 1) (hlow : p.low ≤ b) (hhigh : b ≤ p.high) :
      Completes p [b] (charOf (p.bits * 64 + (b.toNat - 0x80)))
  | more {p : Pending} {b : UInt8} {bs : List UInt8} {c : Char} (howed : 1 < p.owed)
      (hlow : p.low ≤ b) (hhigh : b ≤ p.high)
      (hrest : Completes ⟨p.lead, p.start, p.owed - 1, 0x80, 0xBF,
        p.bits * 64 + (b.toNat - 0x80)⟩ bs c) : Completes p (b :: bs) c

/-- A character that was begun is decoded together with the bytes that complete it. -/
theorem decodeFrom_some_eq_ok_iff : decodeFrom halves done pos (some p) bytes = .ok cs ↔
    ∃ front rest c, bytes = front ++ rest ∧ Completes p front c ∧
      decodeFrom halves (c :: done) (pos + front.length) none rest = .ok cs := by
  induction bytes generalizing pos p with
  | nil =>
    simp only [decodeFrom, reduceCtorEq, false_iff]
    rintro ⟨front, rest, c, hnil, hcompletes, -⟩
    obtain ⟨rfl, -⟩ := List.append_eq_nil_iff.mp hnil.symm
    cases hcompletes
  | cons b bs ih =>
    by_cases hrange : (p.low ≤ b && b ≤ p.high) = true
    · obtain ⟨hlow, hhigh⟩ : p.low ≤ b ∧ b ≤ p.high := by simpa using hrange
      by_cases howed : p.owed ≤ 1
      · simp only [decodeFrom, hrange, howed, if_true]
        constructor
        · intro h
          exact ⟨[b], bs, _, rfl, .last howed hlow hhigh, h⟩
        · rintro ⟨front, rest, c, hsplit, hcompletes, h⟩
          cases hcompletes with
          | last _ _ _ =>
            obtain ⟨rfl, rfl⟩ := List.cons.inj hsplit
            exact h
          | more hmore _ _ _ => omega
      · simp only [decodeFrom, hrange, howed, if_true, if_false]
        rw [ih]
        constructor
        · rintro ⟨front, rest, c, rfl, hcompletes, h⟩
          refine ⟨b :: front, rest, c, rfl, .more (by omega) hlow hhigh hcompletes, ?_⟩
          rwa [List.length_cons, Nat.add_comm front.length, ← Nat.add_assoc]
        · rintro ⟨front, rest, c, hsplit, hcompletes, h⟩
          cases hcompletes with
          | last hlast _ _ => exact absurd hlast howed
          | @more _ _ front _ _ _ _ hcompletes =>
            obtain ⟨rfl, rfl⟩ := List.cons.inj hsplit
            refine ⟨front, rest, c, rfl, hcompletes, ?_⟩
            rwa [List.length_cons, Nat.add_comm front.length, ← Nat.add_assoc] at h
    · simp only [decodeFrom, hrange, Bool.false_eq_true, if_false, reduceCtorEq, false_iff]
      rintro ⟨front, rest, c, hsplit, hcompletes, -⟩
      cases hcompletes with
      | last _ hlow hhigh =>
        obtain ⟨rfl, -⟩ := List.cons.inj hsplit
        exact hrange (by simp [hlow, hhigh])
      | more _ hlow hhigh _ =>
        obtain ⟨rfl, -⟩ := List.cons.inj hsplit
        exact hrange (by simp [hlow, hhigh])

section

variable {lead low high : UInt8} {start owed bits : Nat}

theorem completes_one_owed : Completes ⟨lead, start, 1, low, high, bits⟩ bs c ↔
    ∃ b, bs = [b] ∧ low ≤ b ∧ b ≤ high ∧ c = charOf (bits * 64 + (b.toNat - 0x80)) := by
  constructor
  · intro h
    cases h with
    | last _ hlow hhigh => exact ⟨_, rfl, hlow, hhigh, rfl⟩
    | more hmore _ _ _ => exact absurd hmore (Nat.lt_irrefl 1)
  · rintro ⟨b, hbs, hlow, hhigh, hc⟩
    rw [hbs, hc]
    exact .last (Nat.le_refl 1) hlow hhigh

theorem completes_more_owed : Completes ⟨lead, start, owed + 2, low, high, bits⟩ bs c ↔
    ∃ b rest, bs = b :: rest ∧ low ≤ b ∧ b ≤ high ∧ Completes ⟨lead, start, owed + 1,
      0x80, 0xBF, bits * 64 + (b.toNat - 0x80)⟩ rest c := by
  constructor
  · intro h
    cases h with
    | last hlast _ _ => exact absurd hlast (by simp)
    | more _ hlow hhigh hrest => exact ⟨_, _, rfl, hlow, hhigh, hrest⟩
  · rintro ⟨b, rest, rfl, hlow, hhigh, hrest⟩
    exact .more (Nat.lt_add_left owed Nat.one_lt_two) hlow hhigh hrest

end

/-- What is owed after a byte that begins a character, by the number of the byte. -/
theorem begin?_eq (pos : Nat) (b : UInt8) : begin? false pos b =
    if 0xC2 ≤ b.toNat ∧ b.toNat ≤ 0xDF then some ⟨b, pos, 1, 0x80, 0xBF, b.toNat - 0xC0⟩
    else if 0xE0 ≤ b.toNat ∧ b.toNat ≤ 0xEF then
      some ⟨b, pos, 2, if b.toNat = 0xE0 then 0xA0 else 0x80,
        if b.toNat = 0xED then 0x9F else 0xBF, b.toNat - 0xE0⟩
    else if 0xF0 ≤ b.toNat ∧ b.toNat ≤ 0xF4 then
      some ⟨b, pos, 3, if b.toNat = 0xF0 then 0x90 else 0x80,
        if b.toNat = 0xF4 then 0x8F else 0xBF, b.toNat - 0xF0⟩
    else none := by
  have hlead : ∀ n, (b = UInt8.ofNat n) = (b.toNat = n % 256) := fun n => by
    rw [← UInt8.toNat_inj, UInt8.toNat_ofNat']
  have hE0 : (b = 0xE0) = (b.toNat = 0xE0) := hlead 0xE0
  have hED : (b = 0xED) = (b.toNat = 0xED) := hlead 0xED
  have hF0 : (b = 0xF0) = (b.toNat = 0xF0) := hlead 0xF0
  have hF4 : (b = 0xF4) = (b.toNat = 0xF4) := hlead 0xF4
  simp only [begin?, UInt8.le_iff_toNat_le, UInt8.reduceToNat, hE0, hED, hF0, hF4,
    Bool.and_eq_true, decide_eq_true_eq]
  grind

section

variable {k : Nat} {bound : UInt8}

/-- The lowest byte that may follow is higher after one of the first bytes. -/
theorem low_le_iff (hbound : 0x80 ≤ bound.toNat) : (if n = k then bound else 0x80) ≤ b ↔
    0x80 ≤ b.toNat ∧ (n = k → bound.toNat ≤ b.toNat) := by
  simp only [UInt8.le_iff_toNat_le, apply_ite UInt8.toNat, UInt8.reduceToNat]
  grind

/-- The highest byte that may follow is lower after one of the first bytes. -/
theorem le_high_iff (hbound : bound.toNat ≤ 0xBF) : b ≤ (if n = k then bound else 0xBF) ↔
    b.toNat ≤ 0xBF ∧ (n = k → b.toNat ≤ bound.toNat) := by
  simp only [UInt8.le_iff_toNat_le, apply_ite UInt8.toNat, UInt8.reduceToNat]
  grind

end

/-- A byte that begins a character, and what completes it, are the bytes of the character. -/
theorem encode_of_completes (hbegin : begin? false pos b = some p) (h : Completes p bs c) :
    utf8EncodeChar c = b :: bs := by
  rw [begin?_eq] at hbegin
  -- One case for each number of bytes that the first one asks for.
  split at hbegin
  case isTrue hlead =>
    obtain rfl := Option.some.inj hbegin
    obtain ⟨b₁, rfl, hlow, hhigh, hc⟩ := completes_one_owed.mp h
    simp only [UInt8.le_iff_toNat_le, UInt8.reduceToNat] at hlow hhigh
    rw [hc, encode_two (by omega) (by omega), ofNat_sub_add (by omega), ofNat_sub_add (by omega)]
  case isFalse =>
    split at hbegin
    case isTrue hlead =>
      obtain rfl := Option.some.inj hbegin
      obtain ⟨b₁, rest, rfl, hlow, hhigh, hrest⟩ := completes_more_owed.mp h
      obtain ⟨b₂, rfl, hlow₂, hhigh₂, hc⟩ := completes_one_owed.mp hrest
      rw [low_le_iff (by decide)] at hlow
      rw [le_high_iff (by decide)] at hhigh
      simp only [UInt8.le_iff_toNat_le, UInt8.reduceToNat] at hlow hhigh hlow₂ hhigh₂
      rw [hc, encode_three (by omega) (by omega) (by omega) (by omega) (by omega),
        ofNat_sub_add (by omega), ofNat_sub_add (by omega), ofNat_sub_add (by omega)]
    case isFalse =>
      split at hbegin
      case isTrue hlead =>
        obtain rfl := Option.some.inj hbegin
        obtain ⟨b₁, rest, rfl, hlow, hhigh, hrest⟩ := completes_more_owed.mp h
        obtain ⟨b₂, rest, rfl, hlow₂, hhigh₂, hrest⟩ := completes_more_owed.mp hrest
        obtain ⟨b₃, rfl, hlow₃, hhigh₃, hc⟩ := completes_one_owed.mp hrest
        rw [low_le_iff (by decide)] at hlow
        rw [le_high_iff (by decide)] at hhigh
        simp only [UInt8.le_iff_toNat_le, UInt8.reduceToNat]
          at hlow hhigh hlow₂ hhigh₂ hlow₃ hhigh₃
        rw [hc, encode_four (by omega) (by omega) (by omega) (by omega) (by omega) (by omega),
          ofNat_sub_add (by omega), ofNat_sub_add (by omega), ofNat_sub_add (by omega),
          ofNat_sub_add (by omega)]
      case isFalse => exact absurd hbegin nofun

theorem toNat_continuation (k : Nat) : (UInt8.ofNat (k % 64 + 128)).toNat = k % 64 + 128 := by
  rw [UInt8.toNat_ofNat']
  omega

theorem le_continuation (k : Nat) : 0x80 ≤ UInt8.ofNat (k % 64 + 128) := by
  rw [UInt8.le_iff_toNat_le, toNat_continuation]
  exact Nat.le_add_left 128 _

theorem continuation_le (k : Nat) : UInt8.ofNat (k % 64 + 128) ≤ 0xBF := by
  rw [UInt8.le_iff_toNat_le, toNat_continuation]
  simp only [UInt8.reduceToNat]
  omega

theorem toNat_of_ofNat_eq {k : Nat} (h : UInt8.ofNat k = b) (hk : k < 256) : b.toNat = k := by
  rw [← h, UInt8.toNat_ofNat']
  omega

/-- The bytes of a character that takes more than one begin it and complete it. -/
theorem completes_of_encode (pos : Nat) (hbig : 127 < c.toNat) (h : utf8EncodeChar c = b :: bs) :
    ∃ p, begin? false pos b = some p ∧ Completes p bs c := by
  have hvalid : c.toNat.isValidChar := c.valid
  rw [← charOf_toNat c, encode_charOf hvalid, if_neg (by omega)] at h
  -- No half of a surrogate pair is a character, which the ranges of the second byte need.
  simp only [Nat.isValidChar] at hvalid
  split at h
  case isTrue htwo =>
    obtain ⟨hfirst, rfl⟩ := List.cons.inj h
    have hb : b.toNat = c.toNat / 64 % 32 + 192 := toNat_of_ofNat_eq hfirst (by omega)
    rw [begin?_eq, if_pos (by omega)]
    refine ⟨_, rfl, completes_one_owed.mpr ⟨_, rfl, le_continuation _, continuation_le _, ?_⟩⟩
    have hn : (b.toNat - 0xC0) * 64 + (c.toNat % 64 + 128 - 0x80) = c.toNat := by omega
    rw [toNat_continuation, hn, charOf_toNat]
  case isFalse =>
    split at h
    case isTrue hthree =>
      obtain ⟨hfirst, rfl⟩ := List.cons.inj h
      have hb : b.toNat = c.toNat / 4096 % 16 + 224 := toNat_of_ofNat_eq hfirst (by omega)
      rw [begin?_eq, if_neg (by omega), if_pos (by omega)]
      refine ⟨_, rfl, completes_more_owed.mpr ⟨_, _, rfl, ?_, ?_, completes_one_owed.mpr
        ⟨_, rfl, le_continuation _, continuation_le _, ?_⟩⟩⟩
      · rw [low_le_iff (by decide), toNat_continuation]
        simp only [UInt8.reduceToNat]
        omega
      · rw [le_high_iff (by decide), toNat_continuation]
        simp only [UInt8.reduceToNat]
        omega
      · have hn : ((b.toNat - 0xE0) * 64 + (c.toNat / 64 % 64 + 128 - 0x80)) * 64 +
            (c.toNat % 64 + 128 - 0x80) = c.toNat := by omega
        rw [toNat_continuation, toNat_continuation, hn, charOf_toNat]
    case isFalse =>
      obtain ⟨hfirst, rfl⟩ := List.cons.inj h
      have hb : b.toNat = c.toNat / 262144 % 8 + 240 := toNat_of_ofNat_eq hfirst (by omega)
      rw [begin?_eq, if_neg (by omega), if_neg (by omega), if_pos (by omega)]
      refine ⟨_, rfl, completes_more_owed.mpr ⟨_, _, rfl, ?_, ?_, completes_more_owed.mpr
        ⟨_, _, rfl, le_continuation _, continuation_le _, completes_one_owed.mpr
        ⟨_, rfl, le_continuation _, continuation_le _, ?_⟩⟩⟩⟩
      · rw [low_le_iff (by decide), toNat_continuation]
        simp only [UInt8.reduceToNat]
        omega
      · rw [le_high_iff (by decide), toNat_continuation]
        simp only [UInt8.reduceToNat]
        omega
      · have hn : (((b.toNat - 0xF0) * 64 + (c.toNat / 4096 % 64 + 128 - 0x80)) * 64 +
            (c.toNat / 64 % 64 + 128 - 0x80)) * 64 + (c.toNat % 64 + 128 - 0x80) = c.toNat := by
          omega
        rw [toNat_continuation, toNat_continuation, toNat_continuation, hn, charOf_toNat]

/-- What the bytes of a character are, seen from the first of them. -/
theorem encode_eq_cons_iff (pos : Nat) : utf8EncodeChar c = b :: bs ↔
    (b < 0x80 ∧ c = charOf b.toNat ∧ bs = []) ∨
      (¬ b < 0x80 ∧ ∃ p, begin? false pos b = some p ∧ Completes p bs c) := by
  have hascii : b < 0x80 ↔ b.toNat < 128 := UInt8.lt_iff_toNat_lt
  constructor
  · intro h
    by_cases hsmall : c.toNat < 128
    · rw [← charOf_toNat c, encode_one hsmall] at h
      obtain ⟨hfirst, rfl⟩ := List.cons.inj h
      have hb : b.toNat = c.toNat := toNat_of_ofNat_eq hfirst (by omega)
      exact .inl ⟨hascii.mpr (by omega), by rw [hb, charOf_toNat], rfl⟩
    · obtain ⟨p, hbegin, hcompletes⟩ := completes_of_encode pos (by omega) h
      have hlead : ¬ b.toNat < 128 := by
        rw [begin?_eq] at hbegin
        grind
      exact .inr ⟨fun hb => hlead (hascii.mp hb), p, hbegin, hcompletes⟩
  · rintro (⟨hb, hc, rfl⟩ | ⟨-, p, hbegin, hcompletes⟩)
    · rw [hc, encode_one (hascii.mp hb), UInt8.ofNat_toNat]
    · exact encode_of_completes hbegin hcompletes

/-- One character is decoded after the other, each from its bytes. -/
theorem decodeFrom_none_eq_ok_iff : decodeFrom false done pos none bytes = .ok cs ↔
    (bytes = [] ∧ cs = done.reverse) ∨ ∃ c rest, bytes = utf8EncodeChar c ++ rest ∧
      decodeFrom false (c :: done) (pos + (utf8EncodeChar c).length) none rest = .ok cs := by
  constructor
  · intro h
    cases bytes with
    | nil =>
      simp only [decodeFrom, Except.ok.injEq] at h
      exact .inl ⟨rfl, h.symm⟩
    | cons b bs =>
      right
      by_cases hb : b < 0x80
      · simp only [decodeFrom, hb, if_true] at h
        have hencode : utf8EncodeChar (charOf b.toNat) = [b] :=
          (encode_eq_cons_iff pos).mpr (.inl ⟨hb, rfl, rfl⟩)
        refine ⟨charOf b.toNat, bs, by rw [hencode]; rfl, ?_⟩
        rwa [hencode]
      · simp only [decodeFrom, hb, if_false] at h
        cases hbegin : begin? false pos b with
        | none => simp [hbegin] at h
        | some p =>
          rw [hbegin] at h
          obtain ⟨front, rest, c, rfl, hcompletes, hrest⟩ := decodeFrom_some_eq_ok_iff.mp h
          have hencode : utf8EncodeChar c = b :: front := encode_of_completes hbegin hcompletes
          refine ⟨c, rest, by rw [hencode]; rfl, ?_⟩
          rwa [hencode, List.length_cons, Nat.add_comm front.length, ← Nat.add_assoc]
  · rintro (⟨rfl, rfl⟩ | ⟨c, rest, rfl, hrest⟩)
    · rfl
    · obtain ⟨b, bs, hencode⟩ := List.exists_cons_of_ne_nil (String.utf8EncodeChar_ne_nil (c := c))
      rw [hencode] at hrest ⊢
      obtain ⟨hb, hc, rfl⟩ | ⟨hb, p, hbegin, hcompletes⟩ := (encode_eq_cons_iff pos).mp hencode
      · simp only [List.cons_append, List.nil_append, decodeFrom, hb, if_true]
        rwa [← hc]
      · simp only [List.cons_append, decodeFrom, hb, if_false, hbegin]
        refine decodeFrom_some_eq_ok_iff.mpr ⟨bs, rest, c, rfl, hcompletes, ?_⟩
        rwa [List.length_cons, Nat.add_comm bs.length, ← Nat.add_assoc] at hrest

/-- From between two characters, the bytes of a text are decoded, and nothing else. -/
theorem decodeFrom_eq_ok_iff : decodeFrom false done pos none bytes = .ok cs ↔
    ∃ more, cs = done.reverse ++ more ∧ bytes = more.flatMap utf8EncodeChar := by
  constructor
  · intro h
    -- A character takes at least one byte, so that what is left is shorter.
    induction hlength : bytes.length using Nat.strongRecOn generalizing done pos bytes with
    | ind l ih =>
      obtain ⟨rfl, rfl⟩ | ⟨c, rest, rfl, hrest⟩ := decodeFrom_none_eq_ok_iff.mp h
      · exact ⟨[], (List.append_nil _).symm, rfl⟩
      · have hpos : 0 < (utf8EncodeChar c).length :=
          List.length_pos_iff.mpr String.utf8EncodeChar_ne_nil
        rw [List.length_append] at hlength
        obtain ⟨more, rfl, rfl⟩ := ih rest.length (by omega) hrest rfl
        exact ⟨c :: more, by simp, rfl⟩
  · rintro ⟨more, rfl, rfl⟩
    induction more generalizing done pos with
    | nil => simp [decodeFrom]
    | cons c more ih =>
      refine decodeFrom_none_eq_ok_iff.mpr (.inr ⟨c, more.flatMap utf8EncodeChar, rfl, ?_⟩)
      have hmore : decodeFrom false (c :: done) (pos + (utf8EncodeChar c).length) none
          (more.flatMap utf8EncodeChar) = .ok ((c :: done).reverse ++ more) := ih
      simpa using hmore

theorem decode_eq_ok_iff : decode bytes = .ok cs ↔ bytes = cs.flatMap utf8EncodeChar := by
  rw [decode, decodeFrom_eq_ok_iff]
  simp

/-- The bytes that are decoded are those that the library holds for UTF-8. -/
theorem decode_isOk_iff : (∃ cs, decode bytes = .ok cs) ↔ bytes.toByteArray.IsValidUTF8 := by
  simp only [decode_eq_ok_iff]
  constructor
  · rintro ⟨cs, rfl⟩
    exact ⟨cs, rfl⟩
  · rintro ⟨cs, h⟩
    have hdata : bytes.toArray = (cs.flatMap utf8EncodeChar).toArray := by
      rw [← List.data_toByteArray, ← List.data_toByteArray, h]
      rfl
    exact ⟨cs, (Array.mk.injEq _ _).mp hdata⟩

end RowIngest.Text.Utf8
