/-!
Bytes shown as text. Bytes that are no character in UTF-8 are shown by a sign of their own, once for
as many of them as could have begun a character.
-/

namespace Harmonograph.Utf8

/-- The sign for bytes that are no character. -/
def unknown : Char := '\uFFFD'

/-- A character that lacks some bytes: its number so far, and between which two each of these bytes
has to be. -/
structure Begun where
  number : Nat
  missing : List (Nat × Nat)
  deriving DecidableEq, Repr

/-- The character that a byte begins. The bounds of the second byte leave out what fewer bytes could
say, and the numbers of no character. -/
def begun? (b : Nat) : Option Begun :=
  let tail := (0x80, 0xBF)
  if b < 0x80 then some ⟨b, []⟩
  else if b < 0xC2 then none
  else if b < 0xE0 then some ⟨b - 0xC0, [tail]⟩
  else if b < 0xF0 then
    some ⟨b - 0xE0, [(if b = 0xE0 then 0xA0 else 0x80, if b = 0xED then 0x9F else 0xBF), tail]⟩
  else if b < 0xF5 then
    some ⟨b - 0xF0,
      [(if b = 0xF0 then 0x90 else 0x80, if b = 0xF4 then 0x8F else 0xBF), tail, tail]⟩
  else none

namespace Begun

variable (c : Begun)

/-- The character with one more byte. -/
def next? (b : Nat) : Option Begun :=
  match c.missing with
  | [] => none
  | (least, greatest) :: rest =>
    if least ≤ b ∧ b ≤ greatest then some ⟨c.number * 64 + (b - 0x80), rest⟩ else none

/-- The character is shown as soon as it lacks nothing. -/
def settle : List Char × Option Begun :=
  match c.missing with
  | [] => ([.ofNat c.number], none)
  | _ => ([], some c)

end Begun

/-- What a byte shows where no character has begun, and the character that it begins. -/
def first (b : Nat) : List Char × Option Begun :=
  match begun? b with
  | none => ([unknown], none)
  | some c => c.settle

/-- What one more byte shows. A byte that does not go on with a character is tried as the first of
another one. -/
def step (begun : Option Begun) (b : Nat) : List Char × Option Begun :=
  match begun with
  | none => first b
  | some c =>
    match c.next? b with
    | some c' => c'.settle
    | none => (unknown :: (first b).1, (first b).2)

/-- What the bytes show behind a character that has begun. -/
def shownFrom : Option Begun → List UInt8 → List Char
  | none, [] => []
  | some _, [] => [unknown]
  | begun, b :: bs =>
    let r := step begun b.toNat
    r.1 ++ shownFrom r.2 bs

/-- What the bytes show. -/
def shown (bs : List UInt8) : List Char := shownFrom none bs

theorem first_of_lt : ∀ n < 128, first n = ([.ofNat n], none) := by decide

theorem first_two : ∀ n < 32, 2 ≤ n → first (n + 192) = ([], some ⟨n, [(0x80, 0xBF)]⟩) := by decide

theorem first_three : ∀ n < 16, first (n + 224) =
    ([], some ⟨n,
      [(if n = 0 then 0xA0 else 0x80, if n = 13 then 0x9F else 0xBF), (0x80, 0xBF)]⟩) := by
  decide

theorem first_four : ∀ n < 5, first (n + 240) =
    ([], some ⟨n, [(if n = 0 then 0x90 else 0x80, if n = 4 then 0x8F else 0xBF),
      (0x80, 0xBF), (0x80, 0xBF)]⟩) := by
  decide

section Bytes

variable {n b least greatest : Nat} {r : Nat × Nat} {rest : List (Nat × Nat)} {bs : List UInt8}

theorem shownFrom_first (hb : b < 256) :
    shownFrom none (UInt8.ofNat b :: bs) = (first b).1 ++ shownFrom (first b).2 bs := by
  rw [shownFrom, UInt8.toNat_ofNat_of_lt' hb, step]

theorem step_of_bounds (hl : least ≤ b + 0x80) (hg : b + 0x80 ≤ greatest) (hb : b < 64) :
    step (some ⟨n, (least, greatest) :: rest⟩) (UInt8.ofNat (b + 0x80)).toNat =
      Begun.settle ⟨n * 64 + b, rest⟩ := by
  have hbyte : b + 0x80 < 256 := by omega
  rw [UInt8.toNat_ofNat_of_lt' hbyte, step, Begun.next?]
  dsimp only
  rw [if_pos ⟨hl, hg⟩, Nat.add_sub_cancel]

theorem shownFrom_more (hl : least ≤ b + 0x80) (hg : b + 0x80 ≤ greatest) (hb : b < 64) :
    shownFrom (some ⟨n, (least, greatest) :: r :: rest⟩) (UInt8.ofNat (b + 0x80) :: bs) =
      shownFrom (some ⟨n * 64 + b, r :: rest⟩) bs := by
  rw [shownFrom, step_of_bounds hl hg hb]
  rfl

theorem shownFrom_last (hl : least ≤ b + 0x80) (hg : b + 0x80 ≤ greatest) (hb : b < 64) :
    shownFrom (some ⟨n, [(least, greatest)]⟩) (UInt8.ofNat (b + 0x80) :: bs) =
      .ofNat (n * 64 + b) :: shown bs := by
  rw [shownFrom, step_of_bounds hl hg hb]
  rfl

end Bytes

/-- The bytes of a character show this character. -/
theorem shown_utf8EncodeChar_append (c : Char) (bs : List UInt8) :
    shown (String.utf8EncodeChar c ++ bs) = c :: shown bs := by
  have hvalid : c.toNat < 0xD800 ∨ 0xDFFF < c.toNat ∧ c.toNat < 0x110000 := c.valid
  have hc : Char.ofNat c.toNat = c := Char.ofNat_toNat c
  have hnumber : c.val.toNat = c.toNat := rfl
  rw [String.utf8EncodeChar, shown]
  simp only [hnumber]
  generalize c.toNat = v at hvalid hc
  subst hc
  by_cases h₁ : v ≤ 127
  · rw [if_pos h₁, List.singleton_append, shownFrom_first (by omega), first_of_lt v (by omega)]
    rfl
  rw [if_neg h₁]
  by_cases h₂ : v ≤ 2047
  · have hv : v / 64 * 64 + v % 64 = v := by omega
    rw [if_pos h₂, List.cons_append, shownFrom_first (by omega), Nat.mod_eq_of_lt (by omega),
      first_two _ (by omega) (by omega), List.nil_append, List.singleton_append,
      shownFrom_last (by omega) (by omega) (by omega), hv]
  rw [if_neg h₂]
  by_cases h₃ : v ≤ 65535
  · have hv : (v / 4096 * 64 + v / 64 % 64) * 64 + v % 64 = v := by omega
    rw [if_pos h₃, List.cons_append, shownFrom_first (by omega), Nat.mod_eq_of_lt (by omega),
      first_three _ (by omega), List.nil_append, List.cons_append,
      shownFrom_more (by split <;> omega) (by split <;> omega) (by omega), List.singleton_append,
      shownFrom_last (by omega) (by omega) (by omega), hv]
  · have hv : ((v / 262144 * 64 + v / 4096 % 64) * 64 + v / 64 % 64) * 64 + v % 64 = v := by omega
    rw [if_neg h₃, List.cons_append, shownFrom_first (by omega), Nat.mod_eq_of_lt (by omega),
      first_four _ (by omega), List.nil_append, List.cons_append,
      shownFrom_more (by split <;> omega) (by split <;> omega) (by omega), List.cons_append,
      shownFrom_more (by omega) (by omega) (by omega), List.singleton_append,
      shownFrom_last (by omega) (by omega) (by omega), hv]

/-- The bytes of a text show this text. -/
theorem shown_flatMap (cs : List Char) : shown (cs.flatMap String.utf8EncodeChar) = cs := by
  induction cs with
  | nil => rfl
  | cons c cs ih => rw [List.flatMap_cons, shown_utf8EncodeChar_append, ih]

end Harmonograph.Utf8
