import FlashPatch.Numeral
import Mathlib.Algebra.Group.Nat.Defs
import Mathlib.Data.List.Induction

/-!
# Laws of numerals

Reading is described by the digits that the characters stand for, a numeral is below the power of
its base that its length gives, and what is written is read back.
-/

namespace FlashPatch.Numeral

/-- Each digit counts with its weight, the first digits with the length of the others. -/
theorem value_append (base : Nat) (front back : List Nat) :
    value base (front ++ back) = value base front * base ^ back.length + value base back := by
  induction back using List.reverseRecOn with
  | nil => simp [value]
  | append_singleton back d ih =>
    rw [← List.append_assoc, value_append_singleton, value_append_singleton, ih, List.length_append,
      List.length_singleton, Nat.pow_succ', Nat.mul_add, Nat.add_assoc, Nat.mul_left_comm]

/-- Leading zeros have no value. -/
theorem value_replicate_append (base zeros : Nat) (digits : List Nat) :
    value base (List.replicate zeros 0 ++ digits) = value base digits := by
  induction zeros with
  | zero => rfl
  | succ zeros ih =>
    rw [List.replicate_succ, List.cons_append, ← ih]
    simp [value]

/-- Digits below the base give a number below the power of the base for their count. -/
theorem value_lt {base : Nat} {digits : List Nat} (h : ∀ d ∈ digits, d < base) :
    value base digits < base ^ digits.length := by
  induction digits using List.reverseRecOn with
  | nil => simp [value]
  | append_singleton digits d ih =>
    have front := ih fun e he ↦ h e (List.mem_append_left _ he)
    have last : d < base := h d (by simp)
    rw [value_append_singleton, List.length_append, List.length_singleton, Nat.pow_succ']
    calc base * value base digits + d < base * (value base digits + 1) := by
          rw [Nat.mul_add, Nat.mul_one]
          omega
      _ ≤ base * base ^ digits.length := Nat.mul_le_mul_left _ front

/-- Characters are digits of a base exactly if each stands for a number below the base. -/
theorem digits?_eq_some_iff {base : Nat} {text : List Char} {digits : List Nat} :
    digits? base text = some digits ↔
      text.map digit? = digits.map some ∧ ∀ d ∈ digits, d < base := by
  induction text generalizing digits with
  | nil =>
    cases digits with
    | nil => simp [digits?]
    | cons d digits => simp [digits?]
  | cons c text ih =>
    have step : digits? base (c :: text) =
        ((digit? c).filter (· < base)).bind fun d ↦ (digits? base text).map (d :: ·) := by
      simp only [digits?, List.mapM_cons, Option.pure_def, Option.bind_eq_bind]
      congr 1
      funext d
      exact Option.map_eq_bind.symm
    rw [step, Option.bind_eq_some_iff]
    constructor
    · rintro ⟨d, hd, hds⟩
      obtain ⟨hc, hlt⟩ := Option.filter_eq_some_iff.mp hd
      obtain ⟨rest, hrest, rfl⟩ := Option.map_eq_some_iff.mp hds
      obtain ⟨hmap, hall⟩ := ih.mp hrest
      refine ⟨by rw [List.map_cons, List.map_cons, hc, hmap], ?_⟩
      intro e he
      rcases List.mem_cons.mp he with rfl | he
      · exact of_decide_eq_true hlt
      · exact hall e he
    · rintro ⟨hmap, hall⟩
      cases digits with
      | nil => simp at hmap
      | cons d digits =>
        obtain ⟨hc, hmap⟩ := List.cons.inj hmap
        refine ⟨d, Option.filter_eq_some_iff.mpr ⟨hc, decide_eq_true (hall d (by simp))⟩, ?_⟩
        rw [ih.mpr ⟨hmap, fun e he ↦ hall e (List.mem_cons_of_mem _ he)⟩, Option.map_some]

/-- A text writes a number exactly if it has digits and they have that value. -/
theorem read?_eq_some_iff {base : Nat} {text : List Char} {n : Nat} :
    read? base text = some n ↔
      text ≠ [] ∧ ∃ digits, digits? base text = some digits ∧ value base digits = n := by
  unfold read?
  cases text with
  | nil => simp
  | cons c text => simp [Option.map_eq_some_iff]

/-- A written number is below the power of its base for the length of the text. -/
theorem lt_of_read? {base : Nat} {text : List Char} {n : Nat} (h : read? base text = some n) :
    n < base ^ text.length := by
  obtain ⟨-, digits, hdigits, rfl⟩ := read?_eq_some_iff.mp h
  obtain ⟨hmap, hlt⟩ := digits?_eq_some_iff.mp hdigits
  have hlen : text.length = digits.length := by simpa using congrArg List.length hmap
  rw [hlen]
  exact value_lt hlt

/-- The code points of digits: ten decimal ones, and the letters of either case behind them. -/
theorem toNat_of_digit? {c : Char} {d : Nat} (h : digit? c = some d) :
    d < 10 ∧ c.toNat = d + 48 ∨
      10 ≤ d ∧ d < 36 ∧ (c.toNat = d + 87 ∨ c.toNat = d + 55) := by
  unfold digit? at h
  split at h
  · next hc =>
    have hrange : 48 ≤ c.toNat ∧ c.toNat ≤ 57 := Char.isDigit_iff_toNat.mp hc
    have hd : c.toNat - 48 = d := Option.some.inj h
    omega
  · split at h
    · next hc =>
      obtain ⟨hlow, hhigh⟩ := Bool.and_eq_true_iff.mp hc
      have hrange : 97 ≤ c.toNat ∧ c.toNat ≤ 122 :=
        ⟨of_decide_eq_true hlow, of_decide_eq_true hhigh⟩
      have hd : c.toNat - 97 + 10 = d := Option.some.inj h
      omega
    · split at h
      · next hc =>
        have hrange : 65 ≤ c.toNat ∧ c.toNat ≤ 90 := of_decide_eq_true hc
        have hd : c.toNat - 65 + 10 = d := Option.some.inj h
        omega
      · simp at h

/-- Only visible ASCII characters are digits. -/
theorem digit?_bounds {c : Char} {d : Nat} (h : digit? c = some d) :
    0 < c.toNat ∧ c.toNat < 128 := by
  have := toNat_of_digit? h
  omega

/-- The characters of a written number are digits of its base. -/
theorem digit?_of_mem_of_read? {base : Nat} {text : List Char} {n : Nat}
    (h : read? base text = some n) {c : Char} (hc : c ∈ text) :
    ∃ d, digit? c = some d ∧ d < base := by
  obtain ⟨-, digits, hdigits, -⟩ := read?_eq_some_iff.mp h
  obtain ⟨hmap, hlt⟩ := digits?_eq_some_iff.mp hdigits
  have hmem : digit? c ∈ digits.map some := hmap ▸ List.mem_map_of_mem hc
  obtain ⟨d, hd, he⟩ := List.mem_map.mp hmem
  exact ⟨d, he.symm, hlt d hd⟩

private theorem digit?_digitChar : ∀ d < 16, digit? (Nat.digitChar d) = some d := by decide

private theorem digits?_toDigits {base : Nat} (hb : 1 < base) (hb' : base ≤ 16) (n : Nat) :
    ∃ digits, digits? base (Nat.toDigits base n) = some digits ∧ value base digits = n := by
  induction n using Nat.strongRecOn with
  | ind n ih =>
    rw [Nat.toDigits_eq_if hb]
    split
    · next h =>
      refine ⟨[n], digits?_eq_some_iff.mpr ⟨?_, by simpa using h⟩, by simp [value]⟩
      rw [List.map_singleton, digit?_digitChar n (by omega), List.map_singleton]
    · next h =>
      have hlast : n % base < base := Nat.mod_lt _ (by omega)
      obtain ⟨digits, hdigits, hvalue⟩ := ih (n / base) (Nat.div_lt_self (by omega) hb)
      obtain ⟨hmap, hlt⟩ := digits?_eq_some_iff.mp hdigits
      refine ⟨digits ++ [n % base], digits?_eq_some_iff.mpr ⟨?_, ?_⟩, ?_⟩
      · rw [List.map_append, hmap, List.map_singleton, digit?_digitChar _ (by omega),
          List.map_append, List.map_singleton]
      · intro d hd
        rcases List.mem_append.mp hd with hd | hd
        · exact hlt d hd
        · exact (List.mem_singleton.mp hd) ▸ hlast
      · rw [value_append_singleton, hvalue, Nat.div_add_mod]

/-- A written number is read back, whatever the padding. -/
theorem read?_write {base : Nat} (hb : 1 < base) (hb' : base ≤ 16) (width n : Nat) :
    read? base (write base width n) = some n := by
  obtain ⟨digits, hdigits, hvalue⟩ := digits?_toDigits hb hb' n
  obtain ⟨hmap, hlt⟩ := digits?_eq_some_iff.mp hdigits
  refine read?_eq_some_iff.mpr ⟨?_, ?_⟩
  · intro h
    have := congrArg List.length h
    rw [length_write] at this
    have := Nat.length_toDigits_pos (b := base) (n := n)
    simp only [List.length_nil] at *
    omega
  · refine ⟨List.replicate (width - (Nat.toDigits base n).length) 0 ++ digits, ?_, ?_⟩
    · refine digits?_eq_some_iff.mpr ⟨?_, ?_⟩
      · rw [write, List.leftpad, List.map_append, hmap, List.map_append, List.map_replicate,
          List.map_replicate]
        rfl
      · intro d hd
        rcases List.mem_append.mp hd with hd | hd
        · rw [List.eq_of_mem_replicate hd]
          omega
        · exact hlt d hd
    · rw [value_replicate_append, hvalue]

/-- Two numbers are written alike only if they are the same. -/
theorem write_inj {base : Nat} (hb : 1 < base) (hb' : base ≤ 16) {width n other : Nat} :
    write base width n = write base width other ↔ n = other := by
  refine ⟨fun h ↦ ?_, congrArg _⟩
  have hread := read?_write hb hb' width n
  rw [h, read?_write hb hb'] at hread
  exact (Option.some.inj hread).symm

/-- Without padding there are only the digits. -/
theorem write_zero (base n : Nat) : write base 0 n = Nat.toDigits base n := by
  simp [write, List.leftpad]

end FlashPatch.Numeral
