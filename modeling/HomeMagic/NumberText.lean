import Mathlib

/-! Texts of numbers: decimal ones, and hexadecimal ones of a fixed width. -/
namespace HomeMagic

theorem decimal_inj {m n : ℕ} (h : (toString m).toList = (toString n).toList) : m = n := by
  simp only [Nat.toString_eq_repr, Nat.toList_repr] at h
  have hvalues := congrArg (fun digits => Nat.ofDigitChars 10 digits 0) h
  simpa only [Nat.ofDigitChars_toDigits (b := 10) (by decide) (by decide)] using hvalues

theorem isDigit_of_mem_decimal {n : ℕ} {c : Char} (h : c ∈ (toString n).toList) : c.isDigit = true := by
  simp only [Nat.toString_eq_repr, Nat.toList_repr] at h
  exact Nat.isDigit_of_mem_toDigits (by decide) (by decide) h

theorem append_separator_inj {α : Type} {c : α} {rest rest' : List α} : ∀ {text text' : List α}, c ∉ text → c ∉ text' →
    text ++ c :: rest = text' ++ c :: rest' → text = text' ∧ rest = rest'
  | [], [], _, _, h => ⟨rfl, (List.cons.inj h).2⟩
  | [], d :: text', _, htext', h => by
    have hd : c = d := (List.cons.inj h).1
    exact absurd (hd ▸ List.mem_cons_self) htext'
  | d :: text, [], htext, _, h => by
    have hd : d = c := (List.cons.inj h).1
    exact absurd (hd ▸ List.mem_cons_self) htext
  | d :: text, d' :: text', htext, htext', h => by
    obtain ⟨hd, hrest⟩ := List.cons.inj h
    have hinner := append_separator_inj (fun hmem => htext (List.mem_cons_of_mem _ hmem))
      (fun hmem => htext' (List.mem_cons_of_mem _ hmem)) hrest
    exact ⟨by rw [hd, hinner.1], hinner.2⟩

theorem decimal_cons_inj {m n : ℕ} {c : Char} (hc : c.isDigit = false) {rest rest' : List Char}
    (h : (toString m).toList ++ c :: rest = (toString n).toList ++ c :: rest') : m = n ∧ rest = rest' := by
  have hnot (k : ℕ) : c ∉ (toString k).toList := by
    intro hmem
    rw [isDigit_of_mem_decimal hmem] at hc
    cases hc
  obtain ⟨htext, hrest⟩ := append_separator_inj (hnot m) (hnot n) h
  exact ⟨decimal_inj htext, hrest⟩

def hexDigits : ℕ → ℕ → List Char
  | 0, _ => []
  | width + 1, n => hexDigits width (n / 16) ++ [Nat.digitChar (n % 16)]

theorem digitChar_inj : ∀ m < 16, ∀ n < 16, Nat.digitChar m = Nat.digitChar n → m = n := by decide

theorem hexDigits_inj {width : ℕ} : ∀ {m n : ℕ}, m < 16^width → n < 16^width →
    hexDigits width m = hexDigits width n → m = n := by
  induction width with
  | zero =>
    intro m n hm hn _
    omega
  | succ width ih =>
    intro m n hm hn h
    obtain ⟨hinit, hlast⟩ := List.append_inj' h rfl
    have hdiv : m / 16 = n / 16 := by
      rw [Nat.pow_succ] at hm hn
      exact ih (Nat.div_lt_of_lt_mul (by omega)) (Nat.div_lt_of_lt_mul (by omega)) hinit
    have hmod : m % 16 = n % 16 :=
      digitChar_inj _ (Nat.mod_lt _ (by decide)) _ (Nat.mod_lt _ (by decide)) (List.singleton_inj.mp hlast)
    omega

end HomeMagic
