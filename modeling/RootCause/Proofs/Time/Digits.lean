import Mathlib.Algebra.Ring.Nat
import RootCause.Time.Reader

/-!
Fields of digits: what they are worth, how long they are, how they sort, and that a reader of
digits stops behind them.
-/

namespace RootCause

theorem toNat_of_isDigit {c : Char} (h : c.isDigit) : 48 ≤ c.toNat ∧ c.toNat ≤ 57 := by
  unfold Char.isDigit at h
  simp only [Bool.and_eq_true, decide_eq_true_eq, ge_iff_le, UInt32.le_iff_toNat_le] at h
  exact h

theorem isBlank_of_isDigit {c : Char} (h : c.isDigit) : isBlank c = false := by
  have range := toNat_of_isDigit h
  simp only [isBlank, Bool.or_eq_false_iff, Bool.and_eq_false_iff, decide_eq_false_iff_not,
    beq_eq_false_iff_ne]
  omega

section Order

variable {as bs : List Char}

/-- Texts whose fronts have one length are sorted by their fronts first. -/
theorem append_lt_append_iff {cs ds : List Char} (h : as.length = bs.length) :
    as ++ cs < bs ++ ds ↔ as < bs ∨ as = bs ∧ cs < ds := by
  induction as generalizing bs with
  | nil =>
      have empty : bs = [] := List.eq_nil_of_length_eq_zero h.symm
      subst empty
      simp
  | cons a as ih =>
      cases bs with
      | nil => cases h
      | cons b bs =>
          have shorter : as.length = bs.length := Nat.succ.inj h
          rw [List.cons_append, List.cons_append, List.cons_lt_cons_iff, List.cons_lt_cons_iff,
            ih shorter, List.cons.injEq, and_or_left, or_assoc, and_assoc]

theorem mul_add_lt_mul_add_iff {p m n x y : Nat} (hx : x < p) (hy : y < p) :
    p * m + x < p * n + y ↔ m < n ∨ m = n ∧ x < y := by
  rcases Nat.lt_trichotomy m n with less | same | more
  · have gap := Nat.mul_le_mul_left p less
    rw [Nat.mul_succ] at gap
    constructor <;> omega
  · subst same
    constructor <;> omega
  · have gap := Nat.mul_le_mul_left p more
    rw [Nat.mul_succ] at gap
    constructor <;> omega

/-- The first digit counts as often as its place says. -/
theorem ofDigitChars_cons_eq (c : Char) (cs : List Char) :
    Nat.ofDigitChars 10 (c :: cs) 0 =
      10 ^ cs.length * (c.toNat - '0'.toNat) + Nat.ofDigitChars 10 cs 0 := by
  rw [Nat.ofDigitChars_cons, Nat.ofDigitChars_eq_ofDigitChars_zero, Nat.mul_zero, Nat.zero_add]

theorem ofDigitChars_lt_pow (digits : ∀ c ∈ as, c.isDigit) :
    Nat.ofDigitChars 10 as 0 < 10 ^ as.length := by
  induction as with
  | nil => exact Nat.one_pos
  | cons c cs ih =>
      obtain ⟨here, later⟩ := List.forall_mem_cons.1 digits
      have range := toNat_of_isDigit here
      have most : c.toNat - '0'.toNat ≤ 9 := by
        rw [show '0'.toNat = 48 from rfl]
        omega
      have places := Nat.mul_le_mul_left (10 ^ cs.length) most
      have rest := ih later
      rw [ofDigitChars_cons_eq, List.length_cons, Nat.pow_succ]
      omega

/-- Digits of one length are sorted by what they are worth. -/
theorem lt_iff_ofDigitChars_lt (digits : ∀ c ∈ as, c.isDigit) (digits' : ∀ c ∈ bs, c.isDigit)
    (h : as.length = bs.length) :
    as < bs ↔ Nat.ofDigitChars 10 as 0 < Nat.ofDigitChars 10 bs 0 := by
  induction as generalizing bs with
  | nil =>
      have empty : bs = [] := List.eq_nil_of_length_eq_zero h.symm
      subst empty
      simp
  | cons a as ih =>
      cases bs with
      | nil => cases h
      | cons b bs =>
          obtain ⟨here, later⟩ := List.forall_mem_cons.1 digits
          obtain ⟨here', later'⟩ := List.forall_mem_cons.1 digits'
          have shorter : as.length = bs.length := Nat.succ.inj h
          have bound' := ofDigitChars_lt_pow later'
          have zero : '0'.toNat = 48 := rfl
          have first : a < b ↔ a.toNat - '0'.toNat < b.toNat - '0'.toNat := by
            have range := toNat_of_isDigit here
            have range' := toNat_of_isDigit here'
            rw [Char.lt_def, UInt32.lt_iff_toNat_lt, zero]
            change a.toNat < b.toNat ↔ _
            omega
          have same : a = b ↔ a.toNat - '0'.toNat = b.toNat - '0'.toNat := by
            have range := toNat_of_isDigit here
            have range' := toNat_of_isDigit here'
            rw [← Char.toNat_inj, zero]
            omega
          rw [← shorter] at bound'
          rw [List.cons_lt_cons_iff, ofDigitChars_cons_eq, ofDigitChars_cons_eq, ← shorter,
            mul_add_lt_mul_add_iff (ofDigitChars_lt_pow later) bound', ih later later' shorter,
            first, same]

end Order

section Padded

variable {width n : Nat}

theorem isDigit_of_mem_padded {c : Char} (h : c ∈ padded width n) : c.isDigit := by
  unfold padded at h
  rcases List.mem_append.1 h with zero | digit
  · rw [List.eq_of_mem_replicate zero]
    rfl
  · exact Nat.isDigit_of_mem_toDigits (by decide) (by decide) digit

theorem padded_ne_nil : padded width n ≠ [] :=
  List.append_ne_nil_of_right_ne_nil _ Nat.toDigits_ne_nil

theorem ofDigitChars_padded : Nat.ofDigitChars 10 (padded width n) 0 = n := by
  unfold padded
  dsimp only
  rw [Nat.ofDigitChars_append, Nat.ofDigitChars_replicate_zero, Nat.mul_zero]
  exact Nat.ofDigitChars_ten_toDigits

theorem length_padded (places : 0 < width) (small : n < 10 ^ width) :
    (padded width n).length = width := by
  have short := (Nat.length_toDigits_le_iff (b := 10) (by decide) places).2 small
  unfold padded
  dsimp only
  rw [List.length_append, List.length_replicate]
  omega

theorem padded_lt_padded_iff {m : Nat} (places : 0 < width) (small : m < 10 ^ width)
    (small' : n < 10 ^ width) : padded width m < padded width n ↔ m < n := by
  have lengths : (padded width m).length = (padded width n).length := by
    rw [length_padded places small, length_padded places small']
  rw [lt_iff_ofDigitChars_lt (fun _ => isDigit_of_mem_padded) (fun _ => isDigit_of_mem_padded)
    lengths, ofDigitChars_padded, ofDigitChars_padded]

theorem padded_inj {m : Nat} : padded width m = padded width n ↔ m = n := by
  constructor
  · intro same
    have worth : Nat.ofDigitChars 10 (padded width m) 0 = m := ofDigitChars_padded
    rw [same, ofDigitChars_padded] at worth
    exact worth.symm
  · rintro rfl
    rfl

end Padded

theorem trimStart_of_head {cs : List Char} (h : ∀ c ∈ cs.head?, isBlank c = false) :
    trimStart cs = cs := by
  cases cs with
  | nil => rfl
  | cons c cs =>
      have first := h c rfl
      exact List.dropWhile_cons_of_neg (by simp [first])

theorem trimStart_padded (width n : Nat) (rest : List Char) :
    trimStart (padded width n ++ rest) = padded width n ++ rest := by
  have written : padded width n ≠ [] := padded_ne_nil
  obtain ⟨digit, digits, shown⟩ := List.exists_cons_of_ne_nil written
  have first : digit ∈ padded width n := shown ▸ List.mem_cons_self
  refine trimStart_of_head fun c head => ?_
  rw [shown] at head
  cases head
  exact isBlank_of_isDigit (isDigit_of_mem_padded first)

namespace DateTime

theorem readDigits_append {width : Nat} {digits rest : List Char}
    (each : ∀ c ∈ digits, c.isDigit) (some : digits ≠ []) (fits : digits.length ≤ width)
    (stop : digits.length = width ∨ ∀ c ∈ rest.head?, c.isDigit = false) :
    readDigits width (digits ++ rest) = .some (Nat.ofDigitChars 10 digits 0, rest) := by
  have taken : ((digits ++ rest).takeWhile Char.isDigit).take width = digits := by
    rw [List.takeWhile_append_of_pos each]
    rcases stop with full | behind
    · exact List.take_left' full
    · have none : rest.takeWhile Char.isDigit = [] := by
        cases rest with
        | nil => rfl
        | cons c rest => exact List.takeWhile_cons_of_neg (by simp [behind c rfl])
      rw [none, List.append_nil, List.take_of_length_le fits]
  unfold readDigits
  rw [taken, Nat.ofDigitChars_eq_foldl]
  simp [some]

theorem readField_padded {n : Nat} {cs rest : List Char} (small : n < 100)
    (h : trimStart cs = padded 2 n ++ rest) : readField cs = some (n, rest) := by
  have full : (padded 2 n).length = 2 := length_padded (by decide) small
  have read : readDigits 2 (padded 2 n ++ rest) = _ :=
    readDigits_append (fun _ => isDigit_of_mem_padded) padded_ne_nil (Nat.le_of_eq full) (.inl full)
  unfold readField
  rw [h, read, ofDigitChars_padded]

end DateTime

end RootCause
