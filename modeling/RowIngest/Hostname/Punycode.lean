/-!
Punycode. The characters of a label that are not ASCII are written behind those that are: each
by the number of steps from the one before, where a step goes on to the next place in the label,
or to the next character if there are no more places. Numbers have digits of base 36, the last
of which is below a threshold that goes along with the sizes met before. Main statement: the
digits of a number are read back as that number.
-/
namespace RowIngest.Hostname.Punycode

def base : Nat := 36

/-- The characters that are written as they are. -/
def isBasic (n : Nat) : Bool := n < 0x80

/-- The character of a digit: small letters, then the usual digits. -/
def digitChar (d : Nat) : Char := Char.ofNat (if d < 26 then 97 + d else 22 + d)

def digit? (c : Char) : Option Nat :=
  if 'a' ≤ c && c ≤ 'z' then some (c.toNat - 97)
  else if '0' ≤ c && c ≤ '9' then some (c.toNat - 22)
  else none

theorem digit?_digitChar : ∀ d : Fin 36, digit? (digitChar d.val) = some d.val := by decide

/-- A digit below the threshold is the last of its number. -/
def threshold (bias place : Nat) : Nat := min 26 (max 1 (base * (place + 1) - bias))

theorem threshold_pos (bias place : Nat) : 1 ≤ threshold bias place := by
  unfold threshold; omega

theorem threshold_le (bias place : Nat) : threshold bias place ≤ 26 := by
  unfold threshold; omega

/-- The digits of a number from a place on, the least first. -/
def digits (bias place n : Nat) : List Char :=
  let t := threshold bias place
  if n < t then [digitChar n]
  else digitChar (t + (n - t) % (base - t)) :: digits bias (place + 1) ((n - t) / (base - t))
termination_by n
decreasing_by
  have := threshold_pos bias place
  exact Nat.lt_of_le_of_lt (Nat.div_le_self _ _) (by omega)

/-- Reads a number from a place on, where a digit has the weight `weight`. -/
def number? (bias place weight : Nat) : List Char → Option (Nat × List Char)
  | [] => none
  | c :: rest => do
    let d ← digit? c
    let t := threshold bias place
    if d < t then return (d * weight, rest)
    let (n, rest) ← number? bias (place + 1) (weight * (base - t)) rest
    return (d * weight + n, rest)

theorem digit?_of_lt {d : Nat} (h : d < 36) : digit? (digitChar d) = some d :=
  digit?_digitChar ⟨d, h⟩

theorem number?_digits (bias : Nat) (rest : List Char) (n : Nat) : ∀ place weight,
    number? bias place weight (digits bias place n ++ rest) = some (n * weight, rest) := by
  induction n using Nat.strongRecOn with
  | _ n ih =>
    intro place weight
    have hpos := threshold_pos bias place
    have hle := threshold_le bias place
    rw [digits]
    by_cases h : n < threshold bias place
    · simp [h, number?, digit?_of_lt (show n < 36 by omega)]
    · have hmod := Nat.mod_lt (n - threshold bias place)
        (show 0 < base - threshold bias place by unfold base; omega)
      have hsmall : (n - threshold bias place) / (base - threshold bias place) < n :=
        Nat.lt_of_le_of_lt (Nat.div_le_self _ _) (by omega)
      have hsplit := Nat.mod_add_div (n - threshold bias place) (base - threshold bias place)
      have hd : threshold bias place +
          (n - threshold bias place) % (base - threshold bias place) < 36 := by
        unfold base at hmod ⊢; omega
      have hge : ¬ threshold bias place +
          (n - threshold bias place) % (base - threshold bias place) < threshold bias place := by
        omega
      simp only [h, if_false, List.cons_append, number?, digit?_of_lt hd, hge, ih _ hsmall,
        Option.pure_def, Option.bind_eq_bind, Option.bind_some]
      generalize (n - threshold bias place) % (base - threshold bias place) = r at hsplit
      generalize (n - threshold bias place) / (base - threshold bias place) = q at hsplit
      generalize base - threshold bias place = m at hsplit
      have : n = threshold bias place + r + q * m := by rw [Nat.mul_comm q m]; omega
      simp only [this, Nat.add_mul, Nat.mul_assoc, Nat.mul_comm m weight]

theorem length_of_number? {bias place weight n : Nat} {cs rest : List Char}
    (h : number? bias place weight cs = some (n, rest)) : rest.length < cs.length := by
  induction cs generalizing place weight n rest with
  | nil => simp [number?] at h
  | cons c cs ih =>
    simp only [number?, Option.bind_eq_bind, Option.bind_eq_some_iff] at h
    obtain ⟨d, -, h⟩ := h
    split at h
    · simp only [Option.pure_def, Option.some.injEq, Prod.mk.injEq] at h
      simp [h.2]
    · obtain ⟨⟨m, more⟩, hm, h⟩ := Option.bind_eq_some_iff.1 h
      simp only [Option.pure_def, Option.some.injEq, Prod.mk.injEq] at h
      have := ih hm
      rw [← h.2]
      exact Nat.lt_succ_of_lt this

/-- How often a size is cut down before the bias is taken from it, with what is left of it. -/
def reduced (size : Nat) : Nat × Nat :=
  if 455 < size then
    let (times, left) := reduced (size / 35)
    (times + 1, left)
  else (0, size)
termination_by size
decreasing_by exact Nat.div_lt_self (by omega) (by omega)

/-- The bias after a number, with the label as long as it is then. -/
def adapt (isFirst : Bool) (steps count : Nat) : Nat :=
  let damped := if isFirst then steps / 700 else steps / 2
  let (times, left) := reduced (damped + damped / count)
  base * times + base * left / (left + 38)

def firstBias : Nat := 72

/-- What was written so far: the steps since the last character, and how many characters of the
label are written. -/
structure Progress where
  written : List Char
  steps : Nat
  bias : Nat
  count : Nat
  isFirst : Bool

/-- Passes by one character of the label on the way to all that are `point`. -/
def passBy (point : Nat) (p : Progress) (n : Nat) : Progress :=
  if n < point then { p with steps := p.steps + 1 }
  else if n = point then
    ⟨p.written ++ digits p.bias 0 p.steps, 0, adapt p.isFirst p.steps (p.count + 1), p.count + 1,
      false⟩
  else p

/-- Writes the characters from `point` on, in rising order. -/
def writeFrom (label : List Nat) (point : Nat) (p : Progress) : List Nat → List Char
  | [] => p.written
  | next :: more =>
    let moved := { p with steps := p.steps + (next - point) * (p.count + 1) }
    let passed := label.foldl (passBy next) moved
    writeFrom label (next + 1) { passed with steps := passed.steps + 1 } more

/-- Numbers in rising order, each once. -/
def rising (ns : List Nat) : List Nat := (ns.mergeSort (· ≤ ·)).eraseReps

def encode (label : List Nat) : List Char :=
  let basic := label.filter isBasic
  let start := basic.map Char.ofNat ++ if basic.isEmpty then [] else ['-']
  writeFrom label 0x80 ⟨start, 0, firstBias, basic.length, true⟩
    (rising (label.filter (!isBasic ·)))

/-- The greatest character. -/
def pointLimit : Nat := 0x10FFFF

/-- What is wrong with Punycode. -/
inductive Flaw where
  | notDigit (c : Char)
  | unfinished
  | noCharacter (point : Nat)

/-- Why no number can be read: from what is no digit, or since the last digit is missing. -/
def Flaw.ofNumber (cs : List Char) : Flaw :=
  match cs.find? fun c => (digit? c).isNone with
  | some c => .notDigit c
  | none => .unfinished

/-- Puts characters into a label: the first of them `point` or greater, not before the place
`place` if it is that. -/
def insertAll (label : List Nat) (point place bias : Nat) (isFirst : Bool) (cs : List Char) :
    Except Flaw (List Nat) :=
  if cs.isEmpty then .ok label
  else
    match h : number? bias 0 1 cs with
    | none => .error (.ofNumber cs)
    | some (steps, rest) =>
      have := length_of_number? h
      let count := label.length + 1
      let next := point + (place + steps) / count
      let spot := (place + steps) % count
      if next > pointLimit then .error (.noCharacter next)
      else
        insertAll (label.take spot ++ next :: label.drop spot) next (spot + 1)
          (adapt isFirst steps count) false rest
termination_by cs.length

/-- The label of what is written as it is and the digits of the rest. -/
def restore (basic digits : List Char) : Except Flaw (List Nat) :=
  insertAll (basic.map Char.toNat) 0x80 0 firstBias true digits

/-- The label of Punycode, if it is any. The last hyphen divides what is written as it is from
the rest. -/
def decode? (cs : List Char) : Option (List Nat) :=
  let rest := (cs.reverse.takeWhile (· ≠ '-')).reverse
  (restore (cs.take (cs.length - rest.length - 1)) rest).toOption

end RowIngest.Hostname.Punycode
