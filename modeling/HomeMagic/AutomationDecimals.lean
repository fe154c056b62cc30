import HomeMagic.AutomationCompiler
import HomeMagic.AutomationRunProgress
import HomeMagic.Binary64

/-! Decimal texts: the canonical ones, the numbers they stand for, and their comparison as binary64. -/
namespace HomeMagic
open List

variable {digits digits' : List Char} {c : Char}

structure DecimalText where
  negative : Bool
  integer : List Char
  fraction : List Char
  digits : ∀ c ∈ integer ++ fraction, c.isDigit = true
  integer_ne_nil : integer ≠ []
  leading : 1 < integer.length → integer.head? ≠ some '0'
  trailing : fraction.getLast? ≠ some '0'
  signed : negative = true → ¬ (integer = ['0'] ∧ fraction = [])

namespace DecimalText

def point (fraction : List Char) : List Char := if fraction = [] then [] else '.' :: fraction

def unsigned (d : DecimalText) : List Char := d.integer ++ point d.fraction

def text (d : DecimalText) : List Char := if d.negative then '-' :: d.unsigned else d.unsigned

end DecimalText

def digitsNumber (digits : List Char) : ℕ := Nat.ofDigits 10 ((digits.map (fun c => c.toNat - 48)).reverse)

def isPlain (digits : List Char) : Bool := !digits.isEmpty && digits.all Char.isDigit

def unsignedNumber (text : List Char) : Option ℚ :=
  match text.splitOn '.' with
  | [integer] => if isPlain integer then some (digitsNumber integer) else none
  | [integer, fraction] =>
    if isPlain integer && isPlain fraction then
      some (digitsNumber (integer ++ fraction) / 10 ^ fraction.length) else none
  | _ => none

def decimalNumber (text : String) : Option ℚ :=
  match text.toList with
  | '-' :: rest => (unsignedNumber rest).map (fun x => -x)
  | chars => unsignedNumber chars

def f64Ordering (left right : String) : Option Ordering := do
  let x ← decimalNumber left
  let y ← decimalNumber right
  some (compare (binary64 x) (binary64 y))

theorem digit_lt (h : ∀ c ∈ digits, c.isDigit = true) :
    ∀ n ∈ (digits.map (fun c => c.toNat - 48)).reverse, n < 10 := by
  intro n hn
  obtain ⟨c, hc, rfl⟩ := List.mem_map.mp (mem_reverse.mp hn)
  have hdigit := h c hc
  simp only [Char.isDigit, Bool.and_eq_true, decide_eq_true_eq, UInt32.le_iff_toNat_le] at hdigit
  have htop : c.val.toNat ≤ 57 := hdigit.2
  have hval : c.toNat = c.val.toNat := rfl
  omega

theorem digit_inj {c' : Char} (h : c.isDigit = true) (h' : c'.isDigit = true) (heq : c.toNat - 48 = c'.toNat - 48) :
    c = c' := by
  simp only [Char.isDigit, Bool.and_eq_true, decide_eq_true_eq, UInt32.le_iff_toNat_le] at h h'
  have hlow : 48 ≤ c.val.toNat := h.1
  have hlow' : 48 ≤ c'.val.toNat := h'.1
  apply Char.ext
  apply UInt32.toNat_inj.mp
  have hval : c.toNat = c.val.toNat := rfl
  have hval' : c'.toNat = c'.val.toNat := rfl
  omega

theorem map_digit_inj (h : ∀ c ∈ digits, c.isDigit = true) (h' : ∀ c ∈ digits', c.isDigit = true)
    (heq : digits.map (fun c => c.toNat - 48) = digits'.map (fun c => c.toNat - 48)) : digits = digits' := by
  induction digits generalizing digits' with
  | nil => exact (map_eq_nil_iff.mp heq.symm).symm
  | cons c rest ih =>
    cases digits' with
    | nil => cases heq
    | cons c' rest' =>
      simp only [map_cons, List.cons.injEq] at heq
      simp only [forall_mem_cons] at h h'
      rw [digit_inj h.1 h'.1 heq.1, ih h.2 h'.2 heq.2]

theorem digitsNumber_lt (h : ∀ c ∈ digits, c.isDigit = true) :
    digitsNumber digits < 10 ^ digits.length := by
  have hlt := Nat.ofDigits_lt_base_pow_length (by decide : 1 < 10) (digit_lt h)
  rw [length_reverse, length_map] at hlt
  exact hlt

theorem digitsNumber_append (integer fraction : List Char) :
    digitsNumber (integer ++ fraction) = digitsNumber fraction + 10 ^ fraction.length * digitsNumber integer := by
  unfold digitsNumber
  rw [map_append, reverse_append, Nat.ofDigits_append, length_reverse, length_map]

theorem digitsNumber_inj (h : ∀ c ∈ digits, c.isDigit = true) (h' : ∀ c ∈ digits', c.isDigit = true)
    (hlength : digits.length = digits'.length) (heq : digitsNumber digits = digitsNumber digits') :
    digits = digits' := by
  have hreverse := Nat.ofDigits_inj_of_len_eq (by decide : 1 < 10)
    (by rw [length_reverse, length_reverse, length_map, length_map, hlength])
    (digit_lt h) (digit_lt h') heq
  exact map_digit_inj h h' (reverse_inj.mp hreverse)

theorem le_digitsNumber (h : ∀ c ∈ digits, c.isDigit = true) (hlong : 1 < digits.length)
    (hhead : digits.head? ≠ some '0') : 10 ^ (digits.length - 1) ≤ digitsNumber digits := by
  cases digits with
  | nil => cases hlong
  | cons c rest =>
    have hdigit := h c mem_cons_self
    have hpositive : 1 ≤ digitsNumber [c] := by
      have hvalue : digitsNumber [c] = c.toNat - 48 := by simp [digitsNumber]
      have hne : c.toNat - 48 ≠ '0'.toNat - 48 := fun heq => hhead (congrArg some (digit_inj hdigit (by decide) heq))
      have hzero : '0'.toNat - 48 = 0 := by decide
      omega
    have happend := digitsNumber_append [c] rest
    rw [singleton_append] at happend
    calc
      10 ^ ((c :: rest).length - 1) = 10 ^ rest.length * 1 := by rw [length_cons, Nat.add_sub_cancel, Nat.mul_one]
      _ ≤ 10 ^ rest.length * digitsNumber [c] := Nat.mul_le_mul_left _ hpositive
      _ ≤ digitsNumber (c :: rest) := by omega

theorem length_le_of_digitsNumber (h : ∀ c ∈ digits, c.isDigit = true) (h' : ∀ c ∈ digits', c.isDigit = true)
    (hne : digits ≠ []) (hhead' : 1 < digits'.length → digits'.head? ≠ some '0')
    (heq : digitsNumber digits = digitsNumber digits') : digits'.length ≤ digits.length := by
  by_contra hlt
  have hpositive := length_pos_of_ne_nil hne
  have hle := le_digitsNumber h' (by omega) (hhead' (by omega))
  have hbelow := digitsNumber_lt h
  have hpow : 10 ^ digits.length ≤ 10 ^ (digits'.length - 1) := Nat.pow_le_pow_right (by decide) (by omega)
  omega

theorem getLast?_of_dvd (h : ∀ c ∈ digits, c.isDigit = true) (hne : digits ≠ []) (hdvd : 10 ∣ digitsNumber digits) :
    digits.getLast? = some '0' := by
  have hsplit := dropLast_append_getLast hne
  have hdigit := h _ (getLast_mem hne)
  have hnumber := digitsNumber_append digits.dropLast [digits.getLast hne]
  have hvalue : digitsNumber [digits.getLast hne] = (digits.getLast hne).toNat - 48 := by simp [digitsNumber]
  have hlt : digitsNumber [digits.getLast hne] < 10 ^ [digits.getLast hne].length :=
    digitsNumber_lt (by simpa using hdigit)
  rw [length_singleton] at hlt hnumber
  rw [hsplit] at hnumber
  have hzero : (digits.getLast hne).toNat - 48 = '0'.toNat - 48 := by
    have hnought : '0'.toNat - 48 = 0 := by decide
    omega
  rw [List.getLast?_eq_getLast_of_ne_nil hne, digit_inj hdigit (by decide) hzero]

variable {text : String} {negative : Bool} {unsigned : List Char}

namespace DecimalText
variable (d : DecimalText)

theorem not_mem_point (hc : c ∈ d.integer ++ d.fraction) : c ≠ '.' := by
  rintro rfl
  exact absurd (d.digits _ hc) (by decide)

theorem splitOn_unsigned :
    d.unsigned.splitOn '.' = if d.fraction = [] then [d.integer] else [d.integer, d.fraction] := by
  have hinteger : '.' ∉ d.integer := fun hmem => d.not_mem_point (mem_append_left _ hmem) rfl
  have hfraction : '.' ∉ d.fraction := fun hmem => d.not_mem_point (mem_append_right _ hmem) rfl
  unfold unsigned point
  split
  next hnil =>
    have hjoined : (List.intercalate ['.'] [d.integer]).splitOn '.' = [d.integer] :=
      splitOn_intercalate '.' (by simpa using hinteger) (by simp)
    simpa [List.intercalate] using hjoined
  next hne =>
    have hjoined : (List.intercalate ['.'] [d.integer, d.fraction]).splitOn '.' = [d.integer, d.fraction] :=
      splitOn_intercalate '.' (by simpa using ⟨hinteger, hfraction⟩) (by simp)
    simpa [List.intercalate] using hjoined

theorem integer_digits : d.integer.all Char.isDigit = true :=
  List.all_eq_true.mpr (fun _ hc => d.digits _ (mem_append_left _ hc))

theorem fraction_digits : d.fraction.all Char.isDigit = true :=
  List.all_eq_true.mpr (fun _ hc => d.digits _ (mem_append_right _ hc))

def magnitude : ℚ := digitsNumber (d.integer ++ d.fraction) / 10 ^ d.fraction.length

def number : ℚ := if d.negative then -d.magnitude else d.magnitude

theorem unsignedNumber_unsigned : unsignedNumber d.unsigned = some d.magnitude := by
  have hinteger : d.integer.isEmpty = false := isEmpty_eq_false_iff.mpr d.integer_ne_nil
  unfold unsignedNumber magnitude isPlain
  rw [d.splitOn_unsigned]
  split
  next integer heq =>
    split at heq
    next hnil =>
      cases heq
      simp [hinteger, d.integer_digits, hnil]
    · cases heq
  next integer fraction heq =>
    split at heq
    · cases heq
    next hne =>
      cases heq
      simp [hinteger, d.integer_digits, d.fraction_digits, hne]
  next hnot hnot' =>
    split at hnot
    · exact absurd rfl (hnot _)
    next hne =>
      rw [if_neg hne] at hnot'
      exact absurd rfl (hnot' _ _)

theorem head_unsigned : ∃ c rest, d.unsigned = c :: rest ∧ c.isDigit = true := by
  obtain ⟨c, rest, hcons⟩ := exists_cons_of_ne_nil d.integer_ne_nil
  refine ⟨c, rest ++ point d.fraction, ?_, ?_⟩
  · unfold unsigned
    rw [hcons, cons_append]
  · apply d.digits
    rw [hcons]
    exact mem_append_left _ mem_cons_self

theorem decimalNumber_text (h : d.text = text.toList) : decimalNumber text = some d.number := by
  obtain ⟨c, rest, hcons, hdigit⟩ := d.head_unsigned
  unfold decimalNumber number
  rw [← h]
  unfold DecimalText.text
  cases d.negative with
  | true =>
    simp only [if_true]
    rw [d.unsignedNumber_unsigned, Option.map_some]
  | false =>
    simp only [Bool.false_eq_true, if_false]
    split
    next heq =>
      rw [hcons, List.cons.injEq] at heq
      rw [heq.1] at hdigit
      exact absurd hdigit (by decide)
    · exact d.unsignedNumber_unsigned

theorem magnitude_nonneg : 0 ≤ d.magnitude := by
  unfold magnitude
  positivity

variable {d} {d' : DecimalText}

theorem cross_of_magnitude (h : d.magnitude = d'.magnitude) :
    digitsNumber (d.integer ++ d.fraction) * 10 ^ d'.fraction.length =
      digitsNumber (d'.integer ++ d'.fraction) * 10 ^ d.fraction.length := by
  unfold magnitude at h
  rw [div_eq_div_iff (by positivity) (by positivity)] at h
  exact_mod_cast h

theorem fraction_length_le (h : d.magnitude = d'.magnitude) : d'.fraction.length ≤ d.fraction.length := by
  by_contra hlt
  have hcross := cross_of_magnitude h
  obtain ⟨k, hk⟩ : ∃ k, d'.fraction.length = d.fraction.length + (k + 1) :=
    ⟨d'.fraction.length - d.fraction.length - 1, by omega⟩
  have hscaled : digitsNumber (d'.integer ++ d'.fraction) = 10 * (digitsNumber (d.integer ++ d.fraction) * 10 ^ k) := by
    apply Nat.eq_of_mul_eq_mul_right (by positivity : 0 < 10 ^ d.fraction.length)
    rw [← hcross, hk, pow_add, pow_succ]
    ring
  -- a longer fraction would end in a zero
  have hne : d'.fraction ≠ [] := by
    intro hnil
    rw [hnil] at hk
    cases hk
  have hdvd : 10 ∣ digitsNumber d'.fraction := by
    have happend := digitsNumber_append d'.integer d'.fraction
    have hpow : 10 ^ d'.fraction.length = 10 * 10 ^ (d.fraction.length + k) := by
      rw [hk, ← Nat.add_assoc, pow_succ]
      ring
    rw [hpow, Nat.mul_assoc] at happend
    omega
  exact d'.trailing (getLast?_of_dvd (fun c hc => d'.digits c (mem_append_right _ hc)) hne hdvd)

theorem magnitude_inj (h : d.magnitude = d'.magnitude) : d.integer = d'.integer ∧ d.fraction = d'.fraction := by
  have hlength : d.fraction.length = d'.fraction.length :=
    Nat.le_antisymm (fraction_length_le h.symm) (fraction_length_le h)
  have hnumber : digitsNumber (d.integer ++ d.fraction) = digitsNumber (d'.integer ++ d'.fraction) := by
    have hcross := cross_of_magnitude h
    rw [hlength] at hcross
    exact Nat.eq_of_mul_eq_mul_right (by positivity) hcross
  have hfractionDigits : ∀ c ∈ d.fraction, c.isDigit = true := fun c hc => d.digits c (mem_append_right _ hc)
  have hfractionDigits' : ∀ c ∈ d'.fraction, c.isDigit = true := fun c hc => d'.digits c (mem_append_right _ hc)
  have hintegerDigits : ∀ c ∈ d.integer, c.isDigit = true := fun c hc => d.digits c (mem_append_left _ hc)
  have hintegerDigits' : ∀ c ∈ d'.integer, c.isDigit = true := fun c hc => d'.digits c (mem_append_left _ hc)
  rw [digitsNumber_append, digitsNumber_append, hlength] at hnumber
  have hlt := digitsNumber_lt hfractionDigits
  have hlt' := digitsNumber_lt hfractionDigits'
  rw [hlength] at hlt
  have hfraction : digitsNumber d.fraction = digitsNumber d'.fraction := by
    have hmod := congrArg (fun n => n % 10 ^ d'.fraction.length) hnumber
    simp only [Nat.add_mul_mod_self_left] at hmod
    rwa [Nat.mod_eq_of_lt hlt, Nat.mod_eq_of_lt hlt'] at hmod
  have hinteger : digitsNumber d.integer = digitsNumber d'.integer := by
    rw [hfraction] at hnumber
    exact Nat.eq_of_mul_eq_mul_left (by positivity) (Nat.add_left_cancel hnumber)
  have hle := length_le_of_digitsNumber hintegerDigits hintegerDigits' d.integer_ne_nil d'.leading hinteger
  have hle' := length_le_of_digitsNumber hintegerDigits' hintegerDigits d'.integer_ne_nil d.leading hinteger.symm
  exact ⟨digitsNumber_inj hintegerDigits hintegerDigits' (Nat.le_antisymm hle' hle) hinteger,
    digitsNumber_inj hfractionDigits hfractionDigits' hlength hfraction⟩

def zero : DecimalText := ⟨false, ['0'], [], by simp, by decide, by decide, by decide, by decide⟩

theorem magnitude_pos (h : d.negative = true) : 0 < d.magnitude := by
  refine lt_of_le_of_ne d.magnitude_nonneg ?_
  intro hzero
  have hsame : d.magnitude = zero.magnitude := by
    rw [← hzero]
    simp [magnitude, zero, digitsNumber]
  exact d.signed h (magnitude_inj hsame)

theorem number_inj (h : d.number = d'.number) : d.text = d'.text := by
  have hnonneg := d.magnitude_nonneg
  have hnonneg' := d'.magnitude_nonneg
  unfold number at h
  unfold DecimalText.text unsigned
  cases hnegative : d.negative with
  | true =>
    have hpos := magnitude_pos hnegative
    cases hnegative' : d'.negative with
    | true =>
      rw [hnegative, hnegative', if_pos rfl, if_pos rfl] at h
      obtain ⟨hinteger, hfraction⟩ := magnitude_inj (neg_injective h)
      rw [hinteger, hfraction]
    | false =>
      rw [hnegative, hnegative', if_pos rfl, if_neg Bool.false_ne_true] at h
      linarith
  | false =>
    cases hnegative' : d'.negative with
    | true =>
      have hpos := magnitude_pos hnegative'
      rw [hnegative, hnegative', if_neg Bool.false_ne_true, if_pos rfl] at h
      linarith
    | false =>
      rw [hnegative, hnegative', if_neg Bool.false_ne_true, if_neg Bool.false_ne_true] at h
      obtain ⟨hinteger, hfraction⟩ := magnitude_inj h
      rw [hinteger, hfraction]

end DecimalText

def canonicalUnsigned (value : String) (unsigned : List Char) : Bool :=
  if unsigned.isEmpty || unsigned.head? == some '+' then false
  else match unsigned.splitOn '.' with
    | integer :: rest =>
      if rest.length > 1 || integer.isEmpty || !integer.all Char.isDigit ||
          (decide (integer.length > 1) && integer.head? == some '0') then false
      else match rest with
        | fraction :: _ =>
          !fraction.isEmpty && fraction.all Char.isDigit && !(fraction.getLast? == some '0')
        | [] => value != "-0"
    | [] => false

inductive Unsigned (text : List Char) : Bool → List Char → Prop
  | minus {rest : List Char} (h : text = '-' :: rest) : Unsigned text true rest
  | plain (h : text.head? ≠ some '-') : Unsigned text false text

theorem unsigned_exists (text : List Char) : ∃ negative rest, Unsigned text negative rest := by
  by_cases h : text.head? = some '-'
  · obtain ⟨rest, hrest⟩ := List.head?_eq_some_iff.mp h
    exact ⟨true, rest, .minus hrest⟩
  · exact ⟨false, text, .plain h⟩

theorem canonicalDecimal_eq (h : Unsigned text.toList negative unsigned) :
    canonicalDecimal text = canonicalUnsigned text unsigned := by
  unfold canonicalDecimal
  generalize text.toList = chars at h
  cases h with
  | minus h =>
    rw [h]
    rfl
  | plain h =>
    cases unsigned with
    | nil => rfl
    | cons c rest =>
      have hc : c ≠ '-' := fun heq => h (congrArg some heq)
      split
      next heq => exact absurd (List.cons.inj heq).1 hc
      · rfl

theorem DecimalText.unsigned_text (d : DecimalText) : Unsigned d.text d.negative d.unsigned := by
  obtain ⟨c, rest, hcons, hdigit⟩ := d.head_unsigned
  unfold DecimalText.text
  cases d.negative with
  | true => exact .minus rfl
  | false =>
    refine .plain ?_
    rw [if_neg Bool.false_ne_true, hcons, List.head?_cons, ne_eq, Option.some.injEq]
    rintro rfl
    cases hdigit

theorem DecimalText.accepted (d : DecimalText) (h : d.text = text.toList) :
    canonicalDecimal text = true := by
  obtain ⟨c, rest, hcons, hdigit⟩ := d.head_unsigned
  have hplus : c ≠ '+' := by
    rintro rfl
    cases hdigit
  have hinteger : d.integer.isEmpty = false := isEmpty_eq_false_iff.mpr d.integer_ne_nil
  have hleading : (decide (1 < d.integer.length) && d.integer.head? == some '0') = false := by
    rw [Bool.and_eq_false_imp]
    intro hlong
    exact beq_false_of_ne (d.leading (of_decide_eq_true hlong))
  have hminus : d.fraction = [] → text ≠ "-0" := by
    rintro hnil rfl
    have hnegative : d.negative = true := by
      by_contra hnot
      unfold DecimalText.text at h
      rw [if_neg hnot, hcons] at h
      have hhead : c = '-' := (List.cons.inj h).1
      rw [hhead] at hdigit
      cases hdigit
    unfold DecimalText.text unsigned point at h
    rw [hnegative, if_pos rfl, hnil, if_pos rfl, append_nil] at h
    exact d.signed hnegative ⟨(List.cons.inj h).2, hnil⟩
  rw [canonicalDecimal_eq (h ▸ d.unsigned_text)]
  unfold canonicalUnsigned
  rw [d.splitOn_unsigned, if_neg (by simp [hcons, hplus])]
  by_cases hnil : d.fraction = []
  · rw [if_pos hnil]
    dsimp only
    rw [if_neg (by simp [hinteger, d.integer_digits, hleading])]
    simpa using hminus hnil
  · rw [if_neg hnil]
    dsimp only
    rw [if_neg (by simp [hinteger, d.integer_digits, hleading])]
    have htrailing : (d.fraction.getLast? == some '0') = false := beq_false_of_ne d.trailing
    simp [hnil, d.fraction_digits, htrailing]

theorem canonicalUnsigned_decimal {value : String} (hvalue : Unsigned value.toList negative unsigned)
    (h : canonicalUnsigned value unsigned = true) :
    ∃ d : DecimalText, d.text = value.toList := by
  have hjoined : List.intercalate ['.'] (unsigned.splitOn '.') = unsigned := intercalate_splitOn '.'
  have htext : value.toList = if negative = true then '-' :: unsigned else unsigned := by
    cases hvalue with
    | minus h => exact h
    | plain _ => rfl
  unfold canonicalUnsigned at h
  split at h
  · cases h
  split at h
  next integer rest hsplit =>
    rw [hsplit] at hjoined
    split at h
    · cases h
    next hchecked =>
      simp only [Bool.or_eq_true, Bool.and_eq_true, decide_eq_true_eq, beq_iff_eq, Bool.not_eq_true', not_or, not_and,
        Bool.not_eq_false, List.all_eq_true, List.isEmpty_iff] at hchecked
      obtain ⟨⟨⟨hfew, hne⟩, hdigits⟩, hleading⟩ := hchecked
      cases rest with
      | nil =>
        have hinteger : integer = unsigned := by simpa [List.intercalate] using hjoined
        subst hinteger
        refine ⟨⟨negative, integer, [], by simpa using hdigits, hne, hleading, by decide, ?_⟩, Eq.trans ?_ htext.symm⟩
        · rintro hnegative ⟨hzero, _⟩
          rw [hzero, hnegative, if_pos rfl] at htext
          exact bne_iff_ne.mp h (String.toList_inj.mp htext)
        · simp only [DecimalText.text, DecimalText.unsigned, DecimalText.point, if_true, append_nil]
      | cons fraction more =>
        have hmore : more = [] := by
          rw [length_cons] at hfew
          exact length_eq_zero_iff.mp (by omega)
        rw [hmore] at hjoined
        simp only [Bool.and_eq_true, Bool.not_eq_true', isEmpty_eq_false_iff, List.all_eq_true,
          beq_eq_false_iff_ne] at h
        have hunsigned : integer ++ '.' :: fraction = unsigned := by simpa [List.intercalate] using hjoined
        subst hunsigned
        refine ⟨⟨negative, integer, fraction, ?_, hne, hleading, h.2, ?_⟩, Eq.trans ?_ htext.symm⟩
        · intro c hc
          rcases mem_append.mp hc with hc | hc
          · exact hdigits c hc
          · exact h.1.2 c hc
        · intro _ hboth
          exact h.1.1 hboth.2
        · unfold DecimalText.text DecimalText.unsigned DecimalText.point
          rw [if_neg h.1.1]
  · cases h

theorem canonicalDecimal_iff (text : String) :
    canonicalDecimal text = true ↔ ∃ d : DecimalText, d.text = text.toList := by
  constructor
  · intro h
    obtain ⟨negative, unsigned, hunsigned⟩ := unsigned_exists text.toList
    rw [canonicalDecimal_eq hunsigned] at h
    exact canonicalUnsigned_decimal hunsigned h
  · rintro ⟨d, h⟩
    exact d.accepted h

section
variable (host : EvaluatorHost)

def EvaluatorHost.withDecimals : EvaluatorHost := { host with decimalOrdering := f64Ordering }

/-- The texts that the compiler takes are the canonical ones, of any length, and each number has one. The evaluator
compares the numbers rounded to binary64: a verdict of less or greater holds of the numbers, and one of equal means
that they round to one. -/
theorem canonical_decimals :
    (∀ text, canonicalDecimal text = true ↔ ∃ d : DecimalText, d.text = text.toList) ∧
    ∀ left right, canonicalDecimal left = true → canonicalDecimal right = true →
      ∃ x y, decimalNumber left = some x ∧ decimalNumber right = some y ∧ (x = y ↔ left = right) ∧
        (∀ operator, compareValues host.withDecimals (.decimal left) operator (.decimal right) =
          .ok (operator.holds (compare (binary64 x) (binary64 y)))) ∧
        (binary64 x < binary64 y → x < y) ∧ (binary64 y < binary64 x → y < x) := by
  refine ⟨canonicalDecimal_iff, ?_⟩
  intro left right hleft hright
  obtain ⟨d, hd⟩ := (canonicalDecimal_iff left).mp hleft
  obtain ⟨d', hd'⟩ := (canonicalDecimal_iff right).mp hright
  have hx := d.decimalNumber_text hd
  have hy := d'.decimalNumber_text hd'
  refine ⟨d.number, d'.number, hx, hy, ?_, ?_, ?_, ?_⟩
  · constructor
    · intro heq
      rw [← String.toList_inj, ← hd, ← hd']
      exact DecimalText.number_inj heq
    · rintro rfl
      rw [hx, Option.some.injEq] at hy
      exact hy
  · intro operator
    have hordering : f64Ordering left right = some (compare (binary64 d.number) (binary64 d'.number)) := by
      unfold f64Ordering
      rw [hx, hy]
      rfl
    simp only [compareValues, EvaluatorHost.withDecimals, hordering]
  · exact binary64_mono.reflect_lt
  · exact binary64_mono.reflect_lt

end

/-- Two and a half is above a minus. -/
theorem canonical_decimals_halves : ∃ x y, decimalNumber "2.5" = some x ∧ decimalNumber "-0.01" = some y ∧
    x ≠ y ∧ y < x := by
  obtain ⟨x, y, hx, hy, hsame, _, _, hless⟩ :=
    (canonical_decimals lampEvaluator).2 "2.5" "-0.01" (by decide +kernel) (by decide +kernel)
  have hordering : f64Ordering "2.5" "-0.01" = some .gt := by decide +kernel
  have hrounded : compare (binary64 x) (binary64 y) = .gt := by
    unfold f64Ordering at hordering
    rw [hx, hy] at hordering
    exact Option.some.inj hordering
  refine ⟨x, y, hx, hy, ?_, hless (compare_gt_iff_gt.mp hrounded)⟩
  rw [ne_eq, hsame]
  decide

/-- Canonical decimals are of any length, and two that stand for neighbouring numbers compare as equal. -/
theorem canonical_decimals_unbounded :
    (∀ bound, ∃ text, canonicalDecimal text = true ∧ bound < text.length) ∧
    ∃ x y, canonicalDecimal "9007199254740993" = true ∧ canonicalDecimal "9007199254740992" = true ∧
      decimalNumber "9007199254740993" = some x ∧ decimalNumber "9007199254740992" = some y ∧ y < x ∧
      compareValues lampEvaluator.withDecimals (.decimal "9007199254740993") .equal (.decimal "9007199254740992") =
        .ok true := by
  refine ⟨?_, 9007199254740993, 9007199254740992, ?_⟩
  · intro bound
    have hhead : (List.replicate (bound + 1) '1').head? ≠ some '0' := by
      rw [List.replicate_succ, List.head?_cons, ne_eq, Option.some.injEq]
      decide
    let d : DecimalText := ⟨false, List.replicate (bound + 1) '1', [], by simp +contextual, by simp,
      fun _ => hhead, by decide, fun h => absurd h Bool.false_ne_true⟩
    have htext : d.text = List.replicate (bound + 1) '1' := by
      simp [d, DecimalText.text, DecimalText.unsigned, DecimalText.point]
    refine ⟨String.ofList d.text, d.accepted String.toList_ofList.symm, ?_⟩
    rw [String.length_ofList, htext, List.length_replicate]
    exact Nat.lt_succ_self bound
  · decide +kernel

end HomeMagic
