import EdwardsSignature.Proofs.Text.Number

/-!
# Quoted text can be read

Between the quotes a character stands for itself, or begins with a backslash, and then has a letter or
its code point in braces (`Quoted.Form`). Where a character ends can be told from how it begins, and a
quote that is not part of the text never begins one. So what was quoted can be told from a text that
begins with it, and what comes after it as well (`Quoted.encodeList_append_inj`); above all, no two texts
are quoted alike (`Quoted.encode_injective`).
-/

namespace EdwardsSignature.Text.Quoted

/-- How a character stands between the quotes. -/
inductive Form (c : Char) : List Char → Prop
  /-- By a letter of its own. -/
  | letter {l : Char} (h : (c, l) ∈ letters) : Form c ['\\', l]
  /-- By its code point. -/
  | hidden : Form c (codePoint c)
  /-- By itself, which is no way for a backslash or a quote. -/
  | itself (hbackslash : c ≠ '\\') (hquote : c ≠ '"') : Form c [c]

theorem mem_letters_of_lookup {c l : Char} (h : letters.lookup c = some l) : (c, l) ∈ letters := by
  obtain ⟨as, bs, heq, -⟩ := List.lookup_eq_some_iff.1 h
  rw [heq]
  exact List.mem_append_right as List.mem_cons_self

theorem form_encodeChar (c : Char) : Form c (encodeChar c) := by
  rw [encodeChar]
  split
  · next l h => exact .letter (mem_letters_of_lookup h)
  · next h =>
    split
    · exact .hidden
    · refine .itself ?_ ?_
      · rintro rfl
        exact absurd h (by decide)
      · rintro rfl
        exact absurd h (by decide)

/-! ## Letters -/

/-- Characters with the same letter are the same. -/
theorem eq_of_mem_letters {c d l : Char} (hc : (c, l) ∈ letters) (hd : (d, l) ∈ letters) : c = d := by
  have hall : ∀ p ∈ letters, ∀ q ∈ letters, p.2 = q.2 → p.1 = q.1 := by decide
  exact hall _ hc _ hd rfl

/-- No letter is the one that announces a code point. -/
theorem ne_of_mem_letters {c l : Char} (h : (c, l) ∈ letters) : l ≠ 'u' := by
  have hall : ∀ p ∈ letters, p.2 ≠ 'u' := by decide
  exact hall _ h

/-! ## What can be told from a text that begins with a character -/

variable {c d : Char} {u v xs ys : List Char}

theorem codePoint_append (c : Char) (xs : List Char) :
    codePoint c ++ xs = '\\' :: 'u' :: '\x7b' :: (Nat.toDigits 16 c.toNat ++ '\x7d' :: xs) := by
  simp [codePoint]

/-- A code point ends with the brace that closes it. -/
theorem codePoint_append_inj (h : codePoint c ++ xs = codePoint d ++ ys) : c = d ∧ xs = ys := by
  rw [codePoint_append, codePoint_append] at h
  simp only [List.cons.injEq, true_and] at h
  obtain ⟨hpoint, hrest⟩ := toDigits_append_inj (by decide) (by decide) (by decide) h
  exact ⟨Char.toNat_inj.1 hpoint, hrest⟩

/-- The character can be told, and so can the rest. -/
theorem Form.append_inj (hc : Form c u) (hd : Form d v) (h : u ++ xs = v ++ ys) :
    c = d ∧ xs = ys := by
  -- Two different forms differ in the first character, or in the second one.
  cases hc with
  | letter hl =>
    cases hd with
    | letter hl' =>
      simp only [List.cons_append, List.nil_append, List.cons.injEq, true_and] at h
      obtain ⟨rfl, hrest⟩ := h
      exact ⟨eq_of_mem_letters hl hl', hrest⟩
    | hidden =>
      rw [codePoint_append] at h
      simp only [List.cons_append, List.cons.injEq, true_and] at h
      exact absurd h.1 (ne_of_mem_letters hl)
    | itself hbackslash => exact absurd (List.cons.inj h).1.symm hbackslash
  | hidden =>
    cases hd with
    | letter hl' =>
      rw [codePoint_append] at h
      simp only [List.cons_append, List.cons.injEq, true_and] at h
      exact absurd h.1.symm (ne_of_mem_letters hl')
    | hidden => exact codePoint_append_inj h
    | itself hbackslash =>
      rw [codePoint_append] at h
      exact absurd (List.cons.inj h).1.symm hbackslash
  | itself hbackslash =>
    cases hd with
    | letter _ => exact absurd (List.cons.inj h).1 hbackslash
    | hidden =>
      rw [codePoint_append] at h
      exact absurd (List.cons.inj h).1 hbackslash
    | itself _ => exact List.cons.inj h

/-- No character begins with a quote. -/
theorem Form.append_ne_quote (hc : Form c u) : u ++ xs ≠ '"' :: ys := by
  intro h
  cases hc with
  | letter _ => exact absurd (List.cons.inj h).1 (by decide)
  | hidden =>
    rw [codePoint_append] at h
    exact absurd (List.cons.inj h).1 (by decide)
  | itself _ hquote => exact hquote (List.cons.inj h).1

/-- Text goes up to the quote that ends it. -/
theorem flatMap_encodeChar_append_inj {cs ds : List Char}
    (h : cs.flatMap encodeChar ++ '"' :: xs = ds.flatMap encodeChar ++ '"' :: ys) :
    cs = ds ∧ xs = ys := by
  induction cs generalizing ds with
  | nil =>
    cases ds with
    | nil => exact ⟨rfl, (List.cons.inj h).2⟩
    | cons d ds =>
      rw [List.flatMap_cons, List.append_assoc] at h
      exact absurd h.symm (form_encodeChar d).append_ne_quote
  | cons c cs ih =>
    cases ds with
    | nil =>
      rw [List.flatMap_cons, List.append_assoc] at h
      exact absurd h (form_encodeChar c).append_ne_quote
    | cons d ds =>
      rw [List.flatMap_cons, List.append_assoc, List.flatMap_cons, List.append_assoc] at h
      obtain ⟨rfl, hrest⟩ := (form_encodeChar c).append_inj (form_encodeChar d) h
      obtain ⟨rfl, hxs⟩ := ih hrest
      exact ⟨rfl, hxs⟩

/-! ## Quoted text -/

/-- Both what was quoted and what comes after it can be told. -/
theorem encodeList_append_inj {cs ds : List Char} (h : encodeList cs ++ xs = encodeList ds ++ ys) :
    cs = ds ∧ xs = ys := by
  simp only [encodeList, List.cons_append, List.append_assoc, List.nil_append, List.cons.injEq,
    true_and] at h
  exact flatMap_encodeChar_append_inj h

/-- No two texts are quoted alike. -/
theorem encode_injective : Function.Injective encode := by
  intro s t h
  have hlist := String.ofList_injective h
  have happend : encodeList s.toList ++ [] = encodeList t.toList ++ [] := by rw [hlist]
  exact String.toList_inj.1 (encodeList_append_inj happend).1

end EdwardsSignature.Text.Quoted
