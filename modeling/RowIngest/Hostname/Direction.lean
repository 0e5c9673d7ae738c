import RowIngest.Text.Mark
/-!
The directions of the characters that names of hosts have. Letters run from the left to the
right, or to the left as in Hebrew and Arabic; digits and marks go along with them. A name of
both directions must be told apart from its neighbours wherever it is written, for which there
are rules.
-/
namespace RowIngest.Hostname

inductive Direction where
  | right
  | left
  /-- To the left, as Arabic letters. -/
  | arabic
  | digit
  | arabicDigit
  | hyphen
  | neutral
  | joiner
  | mark
  deriving DecidableEq

def leftRanges : Text.Ranges :=
  [
    (0x05D0, 0x05EA), (0x05EF, 0x05F4), (0x07C0, 0x07EA), (0x07F4, 0x07F5), (0x0800, 0x0815),
    (0x081A, 0x081A), (0x0824, 0x0824), (0x0828, 0x0828), (0x0840, 0x0858), (0x10800, 0x10805),
    (0x10808, 0x10808), (0x1080A, 0x10835), (0x10837, 0x10838), (0x1083C, 0x1083C),
    (0x1083F, 0x10855), (0x10860, 0x10876), (0x10880, 0x1089E), (0x108E0, 0x108F2),
    (0x108F4, 0x108F5), (0x10900, 0x10915), (0x10920, 0x10939), (0x10980, 0x109B7),
    (0x109BE, 0x109BF), (0x10A00, 0x10A00), (0x10A10, 0x10A13), (0x10A15, 0x10A17),
    (0x10A19, 0x10A35), (0x10A60, 0x10A7C), (0x10A80, 0x10A9C), (0x10AC0, 0x10AC7),
    (0x10AC9, 0x10AE4), (0x10B00, 0x10B35), (0x10B40, 0x10B55), (0x10B60, 0x10B72),
    (0x10B80, 0x10B91), (0x10C00, 0x10C48), (0x10CC0, 0x10CF2), (0x10E80, 0x10EA9),
    (0x10EB0, 0x10EB1), (0x10F00, 0x10F1C), (0x10F27, 0x10F27), (0x10F70, 0x10F81),
    (0x10FB0, 0x10FC4), (0x10FE0, 0x10FF6), (0x1E800, 0x1E8C4), (0x1E922, 0x1E943),
    (0x1E94B, 0x1E94B), (0x1E950, 0x1E959)]

def arabicRanges : Text.Ranges :=
  [
    (0x0620, 0x063F), (0x0641, 0x064A), (0x066E, 0x066F), (0x0671, 0x0674), (0x0679, 0x06D3),
    (0x06D5, 0x06D5), (0x06E5, 0x06E6), (0x06EE, 0x06EF), (0x06FA, 0x06FF), (0x0710, 0x0710),
    (0x0712, 0x072F), (0x074D, 0x07A5), (0x07B1, 0x07B1), (0x0860, 0x086A), (0x0870, 0x0887),
    (0x0889, 0x088E), (0x08A0, 0x08C9), (0xFE73, 0xFE73), (0x10D00, 0x10D23), (0x10F30, 0x10F45)]

def arabicDigitRanges : Text.Ranges := [(0x0660, 0x0669), (0x10D30, 0x10D39)]

def digitRanges : Text.Ranges := [(0x0030, 0x0039), (0x06F0, 0x06F9)]

def neutralRanges : Text.Ranges :=
  [
    (0x00B7, 0x00B7), (0x02B9, 0x02BA), (0x02C6, 0x02CF), (0x02EC, 0x02EC), (0x0375, 0x0375),
    (0x2E2F, 0x2E2F), (0x30FB, 0x30FB), (0xA67F, 0xA67F), (0xA717, 0xA71F), (0xA788, 0xA788)]

/-- Marks that count as letters. -/
def letterMarks : List Nat := [0x0CBF, 0x0CC6, 0x11A07, 0x11A08, 0x11C3F]

/-- Characters of which no direction is known, since they are too new. -/
def unknownRanges : Text.Ranges :=
  [
    (0x05C8, 0x05C9), (0x088F, 0x088F), (0x0897, 0x0897), (0x0C5C, 0x0C5C), (0x0CDC, 0x0CDC),
    (0x0CF3, 0x0CF3), (0x0ECE, 0x0ECE), (0x1ACF, 0x1AEB), (0x1C8A, 0x1C8A), (0x208F, 0x208F),
    (0xA7CD, 0xA7CD), (0xA7CF, 0xA7CF), (0xA7DB, 0xA7DB), (0x105C0, 0x105F3), (0x10940, 0x10959),
    (0x10D40, 0x10D4F), (0x10D69, 0x10D6D), (0x10D6F, 0x10D85), (0x10EC2, 0x10EC7),
    (0x10ECB, 0x10ECB), (0x10EFA, 0x10EFF), (0x1123F, 0x11241), (0x11380, 0x11389),
    (0x1138B, 0x1138B), (0x1138E, 0x1138E), (0x11390, 0x113B5), (0x113B7, 0x113C0),
    (0x113C2, 0x113C2), (0x113C5, 0x113C5), (0x113C7, 0x113CA), (0x113CC, 0x113D3),
    (0x113E1, 0x113E2), (0x116D0, 0x116E3), (0x11B0A, 0x11B0A), (0x11B60, 0x11B67),
    (0x11BC0, 0x11BE0), (0x11BF0, 0x11BF9), (0x11DB0, 0x11DDB), (0x11DE0, 0x11DE9),
    (0x11F00, 0x11F10), (0x11F12, 0x11F3A), (0x11F3E, 0x11F42), (0x11F50, 0x11F5A),
    (0x1342F, 0x1342F), (0x13440, 0x13455), (0x13460, 0x143FA), (0x16100, 0x16139),
    (0x16D40, 0x16D6C), (0x16D70, 0x16D79), (0x16D80, 0x16D9D), (0x16DA0, 0x16DA9),
    (0x16EBB, 0x16ED3), (0x16FF2, 0x16FF3), (0x187F8, 0x187FF), (0x18CFF, 0x18CFF),
    (0x18D09, 0x18D1E), (0x18D80, 0x18DF2), (0x18E00, 0x191FF), (0x1B127, 0x1B127),
    (0x1B132, 0x1B132), (0x1B155, 0x1B155), (0x1DF1F, 0x1DF2A), (0x1E08F, 0x1E08F),
    (0x1E4D0, 0x1E4F9), (0x1E5D0, 0x1E5FA), (0x1E6C0, 0x1E6DE), (0x1E6E0, 0x1E6F5),
    (0x1E6FE, 0x1E6FF), (0x2B739, 0x2B73F), (0x2B81E, 0x2B81E), (0x2CEA2, 0x2CEAD),
    (0x2EBF0, 0x2EE5D), (0x31350, 0x33479), (0x3D000, 0x3FC3F)]

def direction? (n : Nat) : Option Direction :=
  if unknownRanges.holds n then none
  else if leftRanges.holds n then some .left
  else if arabicRanges.holds n then some .arabic
  else if arabicDigitRanges.holds n then some .arabicDigit
  else if digitRanges.holds n then some .digit
  else if n = 0x2D then some .hyphen
  else if neutralRanges.holds n then some .neutral
  else if n = 0x200C || n = 0x200D then some .joiner
  else if Text.isNonspacing n && !letterMarks.contains n then some .mark
  else some .right

namespace Direction

def isLeftward : Direction → Bool
  | .left | .arabic | .arabicDigit => true
  | _ => false

/-- The directions of a name that runs to the left. -/
def goesLeft (d : Direction) : Bool := d ≠ .right

/-- The directions at the end of such a name, marks aside. -/
def endsLeft : Direction → Bool
  | .left | .arabic | .digit | .arabicDigit => true
  | _ => false

/-- The directions of a name that runs to the right. -/
def goesRight (d : Direction) : Bool := !d.isLeftward

def endsRight : Direction → Bool
  | .right | .digit => true
  | _ => false

end Direction

/-- What is wrong with the directions of a name, and at which place. -/
inductive DirectionFlaw where
  | unknown (position : Nat)
  | start
  | among (position : Nat) (leftward : Bool)
  | digits
  | ending

/-- Checks a name that runs one way: the directions in it, and that digits are of one kind. -/
def checkRun (leftward : Bool) (kind? : Option Direction) (position : Nat) :
    List Direction → Except DirectionFlaw Unit
  | [] => .ok ()
  | d :: rest =>
    if !(if leftward then d.goesLeft else d.goesRight) then .error (.among position leftward)
    else if leftward && (d = .digit || d = .arabicDigit) then
      if kind?.all (· = d) then checkRun leftward (some d) (position + 1) rest else .error .digits
    else checkRun leftward kind? (position + 1) rest

/-- The directions of characters, or the place of the first that has none. -/
def directions (position : Nat) : List Nat → Except DirectionFlaw (List Direction)
  | [] => .ok []
  | n :: rest =>
    match direction? n with
    | none => .error (.unknown position)
    | some d => (directions (position + 1) rest).map (d :: ·)

/-- Checks the directions of a name. There are no rules for one that runs to the right only. -/
def checkDirections (name : List Nat) : Except DirectionFlaw Unit := do
  let ds ← directions 1 name
  if ds.any (·.isLeftward) then
    let leftward := ds.head?.any fun d => d = .left || d = .arabic
    if !leftward && ds.head? ≠ some .right then throw .start
    checkRun leftward none 1 ds
    let last? := ds.reverse.find? (· ≠ .mark)
    if !last?.any (if leftward then Direction.endsLeft else Direction.endsRight) then
      throw .ending

end RowIngest.Hostname
