import Mathlib

/-! Texts of JSON objects, read from left to right. No proper end of such a text is one itself, so that a text that ends
with one can be taken apart. -/
namespace HomeMagic

/-- Where a reader stands in the text of an object: how many braces are open inside it, and whether in a string or
after a backslash there. -/
inductive ObjectReader
  | outside (depth : ℕ) | inString (depth : ℕ) | escaped (depth : ℕ) | closed
  deriving DecidableEq

variable {a b last next reader : ObjectReader} {text : List Char} {c : Char}

namespace ObjectReader

def read : ObjectReader → Char → Option ObjectReader
  | outside depth, c =>
    if c = '"' then some (inString depth)
    else if c = '{' then some (outside (depth + 1))
    else if c = '}' then some (match depth with | 0 => closed | depth + 1 => outside depth)
    else if c = '\\' then none
    else some (outside depth)
  | inString depth, c =>
    if c = '"' then some (outside depth) else if c = '\\' then some (escaped depth) else some (inString depth)
  | escaped depth, _ => some (inString depth)
  | closed, _ => none

theorem read_outside (depth : ℕ) (c : Char) : (outside depth).read c =
    if c = '"' then some (inString depth)
    else if c = '{' then some (outside (depth + 1))
    else if c = '}' then some (match depth with | 0 => closed | depth + 1 => outside depth)
    else if c = '\\' then none
    else some (outside depth) := rfl

theorem read_inString (depth : ℕ) (c : Char) : (inString depth).read c =
    if c = '"' then some (outside depth) else if c = '\\' then some (escaped depth) else some (inString depth) := rfl

def readAll : ObjectReader → List Char → Option ObjectReader
  | reader, [] => some reader
  | reader, c :: rest => (reader.read c).bind (fun next => next.readAll rest)

theorem readAll_append (reader : ObjectReader) (text rest : List Char) :
    reader.readAll (text ++ rest) = (reader.readAll text).bind (fun next => next.readAll rest) := by
  induction text generalizing reader with
  | nil => rfl
  | cons c text ih =>
    change (reader.read c).bind (fun next => next.readAll (text ++ rest)) = _
    cases hread : reader.read c with
    | none => simp [readAll, hread]
    | some next => simp [readAll, hread, ih]

def nested : ObjectReader → ObjectReader
  | outside depth => outside (depth + 1)
  | inString depth => inString (depth + 1)
  | escaped depth => escaped (depth + 1)
  | closed => outside 0

theorem read_nested (h : reader.read c = some next) :
    reader.nested.read c = some next.nested := by
  cases reader with
  | outside depth =>
    change (outside (depth + 1)).read c = some next.nested
    rw [read_outside] at h ⊢
    split_ifs at h ⊢ with hquote hopen hclose
    · rw [← Option.some.inj h, nested]
    · rw [← Option.some.inj h, nested]
    · rw [← Option.some.inj h]
      cases depth <;> rfl
    · rw [← Option.some.inj h, nested]
  | inString depth =>
    change (inString (depth + 1)).read c = some next.nested
    rw [read_inString] at h ⊢
    split_ifs at h ⊢ with hquote hescape
    · rw [← Option.some.inj h, nested]
    · rw [← Option.some.inj h, nested]
    · rw [← Option.some.inj h, nested]
  | escaped depth => rw [← Option.some.inj h]; rfl
  | closed => cases h

theorem readAll_nested (h : reader.readAll text = some last) :
    reader.nested.readAll text = some last.nested := by
  induction text generalizing reader with
  | nil => rw [← Option.some.inj h]; rfl
  | cons c rest ih =>
    obtain ⟨next, hnext, hlast⟩ := Option.bind_eq_some_iff.mp h
    exact Option.bind_eq_some_iff.mpr ⟨_, read_nested hnext, ih hlast⟩

theorem outside_of_closed (h : (outside 0).readAll text = some closed) (depth : ℕ) :
    (outside (depth + 1)).readAll text = some (outside depth) := by
  induction depth with
  | zero => exact readAll_nested h
  | succ depth ih => exact readAll_nested ih

def Opposed : ObjectReader → ObjectReader → Prop
  | inString _, outside _ => True
  | outside _, inString _ => True
  | inString _, closed => True
  | closed, inString _ => True
  | _, _ => False

theorem Opposed.symm (h : a.Opposed b) : b.Opposed a := by
  cases a <;> cases b <;> trivial

theorem opposed_outside {i : ℕ} (ha : (inString i).read c = some a) (j : ℕ) (hb : (outside j).read c = some b) :
    a.Opposed b := by
  rw [read_inString] at ha
  rw [read_outside] at hb
  split_ifs at ha hb with hquote hescape hopen hclose hopen hclose
  · rw [← Option.some.inj ha, ← Option.some.inj hb]; trivial
  · rw [hescape] at hopen; exact absurd hopen (by decide)
  · rw [hescape] at hclose; exact absurd hclose (by decide)
  · rw [← Option.some.inj ha, ← Option.some.inj hb]; trivial
  · rw [← Option.some.inj ha, ← Option.some.inj hb]
    cases j <;> trivial
  · rw [← Option.some.inj ha, ← Option.some.inj hb]; trivial

theorem Opposed.read {next' : ObjectReader} (h : a.Opposed b) (ha : a.read c = some next)
    (hb : b.read c = some next') : next.Opposed next' := by
  cases a with
  | outside depth =>
    cases b with
    | inString depth' => exact (opposed_outside hb depth ha).symm
    | _ => exact h.elim
  | inString depth =>
    cases b with
    | outside depth' => exact opposed_outside ha depth' hb
    | closed => cases hb
    | _ => exact h.elim
  | escaped depth => cases b <;> exact h.elim
  | closed => cases ha

theorem Opposed.readAll {last' : ObjectReader} (h : a.Opposed b) (ha : a.readAll text = some last)
    (hb : b.readAll text = some last') : last.Opposed last' := by
  induction text generalizing a b with
  | nil =>
    rw [← Option.some.inj ha, ← Option.some.inj hb]
    exact h
  | cons c rest ih =>
    obtain ⟨next, hnext, hlast⟩ := Option.bind_eq_some_iff.mp ha
    obtain ⟨next', hnext', hlast'⟩ := Option.bind_eq_some_iff.mp hb
    exact ih (h.read hnext hnext') hlast hlast'

end ObjectReader

def ObjectText (text : List Char) : Prop :=
  ∃ body, text = '{' :: body ∧ (ObjectReader.outside 0).readAll body = some .closed

theorem ObjectText.suffix_eq {text' : List Char} (h : ObjectText text) (h' : ObjectText text')
    (hsuffix : text <:+ text') : text = text' := by
  obtain ⟨front, rfl⟩ := hsuffix
  cases front with
  | nil => rfl
  | cons first front =>
    obtain ⟨body, rfl, hbody⟩ := h
    obtain ⟨body', hbody', hread⟩ := h'
    obtain ⟨rfl, rfl⟩ := List.cons.inj hbody'
    change (ObjectReader.outside 0).readAll (front ++ '{' :: body) = _ at hread
    rw [ObjectReader.readAll_append] at hread
    obtain ⟨reader, _, hrest⟩ := Option.bind_eq_some_iff.mp hread
    exfalso
    cases reader with
    | outside depth =>
      -- a brace is open around the inner text
      have hinner : (ObjectReader.outside (depth + 1)).readAll body = some .closed := hrest
      rw [ObjectReader.outside_of_closed hbody depth] at hinner
      cases hinner
    | inString depth | escaped depth =>
      have hinner : (ObjectReader.inString depth).readAll body = some .closed := hrest
      exact ObjectReader.Opposed.readAll (a := .inString depth) (b := .outside 0) trivial hinner hbody
    | closed => cases hrest

theorem append_cons_inj_of_notMem_right {α : Type} {separator : α} {front front' rest rest' : List α}
    (h : separator ∉ rest) (h' : separator ∉ rest')
    (heq : front ++ separator :: rest = front' ++ separator :: rest') : front = front' ∧ rest = rest' := by
  rcases List.append_eq_append_iff.mp heq with ⟨middle, hfront, hrest⟩ | ⟨middle, hfront, hrest⟩
  · cases middle with
    | nil => exact ⟨by simpa using hfront.symm, (List.cons.inj hrest).2⟩
    | cons first middle =>
      obtain ⟨_, htail⟩ := List.cons.inj hrest
      exact absurd (by rw [htail]; simp) h
  · cases middle with
    | nil => exact ⟨by simpa using hfront, (List.cons.inj hrest).2.symm⟩
    | cons first middle =>
      obtain ⟨_, htail⟩ := List.cons.inj hrest
      exact absurd (by rw [htail]; simp) h'

end HomeMagic
