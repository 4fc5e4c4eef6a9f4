import EdwardsSignature.Proofs.Scheme.Construction

/-!
# Which schemes can be made

Making a scheme of a key and a context has one of three outcomes (`Scheme.ofKey_cases`): the key is not
a key of the curve with a public half (`Key.HasCurve`), or else the context is too long, or else there is
a scheme, which has the context and just what the key shows (`Scheme.Binds`). Of several faults, the
first one is told. If the mode is given by name, its name is looked at before all else; it has to be
spelled exactly, while the name of the curve may be in any case (`Scheme.construction_outcomes`), which
makes four names of it (`Key.hasCurve_iff`).

Nothing is assumed of the key: it may claim any curve, and show any two halves or none.
-/

namespace EdwardsSignature

open Text (SameButCase)

/-- The key is for the curve, by its name, and shows a public half. -/
structure Key.HasCurve (key : Key) : Prop where
  curveName : SameButCase "ed25519" key.curveName
  publicHalf : key.publicHalf ≠ none

/-- Its curve has one of four names. -/
theorem Key.hasCurve_iff {key : Key} :
    key.HasCurve ↔
      key.curveName ∈ ["ed25519", "Ed25519", "eD25519", "ED25519"] ∧ key.publicHalf ≠ none := by
  rw [← Parameters.find?_eq_some_iff_mem, Parameters.find?_eq_some_iff]
  exact ⟨fun h => ⟨⟨h.curveName, rfl⟩, h.publicHalf⟩, fun h => ⟨h.1.1, h.2⟩⟩

namespace Scheme

/-- The scheme has the context and the mode, and what the key shows. -/
structure Binds (s : Scheme) (key : Key) (mode : Mode) (context : Bytes) : Prop where
  curve_eq : s.curve = .ed25519
  context_eq : s.context = context
  mode_eq : s.mode = mode
  publicKey_eq : some s.publicKey = key.publicHalf
  privateKey_eq : s.privateKey = key.privateHalf
  canSign_eq : s.canSign = key.privateHalf.isSome

variable {key : Key}

/-! ## Making schemes -/

theorem ofKey_of_not_hasCurve (h : ¬key.HasCurve) (mode : Mode) (context : Bytes) :
    ofKey key mode context = .error (.keyMismatch key.curveName) := by
  rw [ofKey]
  split
  · next curve A hcurve hA =>
    obtain ⟨hname, -⟩ := Parameters.find?_eq_some_iff.1 (Option.eq_some_of_filter_eq_some hcurve)
    exact absurd ⟨hname, hA ▸ Option.some_ne_none A⟩ h
  · rfl

/-- The three outcomes, of which each excludes the others. -/
theorem ofKey_cases (key : Key) (mode : Mode) (context : Bytes) :
    (¬key.HasCurve ∧ ofKey key mode context = .error (.keyMismatch key.curveName)) ∨
    (key.HasCurve ∧ 255 < context.length ∧
      ofKey key mode context = .error (.contextTooLong 255 context.length)) ∨
    key.HasCurve ∧ context.length ≤ 255 ∧
      ∃ s, ofKey key mode context = .ok s ∧ s.Binds key mode context := by
  by_cases hkey : key.HasCurve
  · obtain ⟨A, hA⟩ := Option.ne_none_iff_exists'.1 hkey.publicHalf
    have hfind := Parameters.find?_eq_some_iff.2 ⟨hkey.curveName, rfl⟩
    have hmade := ofKey_of_find? hfind hA mode context
    rcases Nat.lt_or_ge 255 context.length with hlt | hle
    · rw [if_neg (Nat.not_le.2 hlt)] at hmade
      exact .inr (.inl ⟨hkey, hlt, hmade⟩)
    · rw [if_pos hle] at hmade
      exact .inr (.inr ⟨hkey, hle, _, hmade, rfl, rfl, rfl, hA.symm, rfl, rfl⟩)
  · exact .inl ⟨hkey, ofKey_of_not_hasCurve hkey mode context⟩

/-- The outcomes, and when there is which. -/
theorem ofKey_outcomes (key : Key) (mode : Mode) (context : Bytes) :
    (ofKey key mode context = .error (.keyMismatch key.curveName) ↔ ¬key.HasCurve) ∧
    (ofKey key mode context = .error (.contextTooLong 255 context.length) ↔
      key.HasCurve ∧ 255 < context.length) ∧
    ((∃ s, ofKey key mode context = .ok s ∧ s.Binds key mode context) ↔
      key.HasCurve ∧ context.length ≤ 255) := by
  rcases ofKey_cases key mode context with ⟨hkey, h⟩ | ⟨hkey, hlt, h⟩ | ⟨hkey, hle, s, h, hbinds⟩
  · simp [h, hkey]
  · simp [h, hkey, hlt, Nat.not_le.2 hlt]
  · simp [h, hkey, hle, hbinds]

/-! ## Naming the mode -/

/-- Once there is a mode, it is not at fault. -/
theorem ofKey_ne_unsupportedMode (key : Key) (mode : Mode) (context : Bytes) (modeName : String) :
    ofKey key mode context ≠ .error (.unsupportedMode modeName) := by
  rcases ofKey_cases key mode context with ⟨-, h⟩ | ⟨-, -, h⟩ | ⟨-, -, s, h, -⟩ <;> simp [h]

theorem ofKeyNamed_of_ne {modeName : String} (h : modeName ≠ "rfc8032") (key : Key) (context : Bytes) :
    ofKeyNamed key modeName context = .error (.unsupportedMode modeName) := by
  have hmode : Mode.ofName modeName = .error (.unsupportedMode modeName) := if_neg h
  rw [ofKeyNamed, hmode]

/-- For every key, every name of a mode and every context, the name of the mode is at fault just if it is
    not the one that there is. Otherwise the key is at fault just if its curve is another one, in any
    case, or if it shows no public half; otherwise the context, just if it has more than 255 bytes; and
    otherwise there is a scheme, of the public key, the private key and the context that were given. For
    a mode as such, it is the same without the first fault. The name of the curve is one of four. -/
theorem construction_outcomes (key : Key) (context : Bytes) :
    (∀ modeName : String,
      (ofKeyNamed key modeName context = .error (.unsupportedMode modeName) ↔
        modeName ≠ "rfc8032") ∧
      (ofKeyNamed key modeName context = .error (.keyMismatch key.curveName) ↔
        modeName = "rfc8032" ∧ ¬key.HasCurve) ∧
      (ofKeyNamed key modeName context = .error (.contextTooLong 255 context.length) ↔
        modeName = "rfc8032" ∧ key.HasCurve ∧ 255 < context.length) ∧
      ((∃ s, ofKeyNamed key modeName context = .ok s ∧ s.Binds key .rfc8032 context) ↔
        modeName = "rfc8032" ∧ key.HasCurve ∧ context.length ≤ 255)) ∧
    (∀ mode : Mode,
      (ofKey key mode context = .error (.keyMismatch key.curveName) ↔ ¬key.HasCurve) ∧
      (ofKey key mode context = .error (.contextTooLong 255 context.length) ↔
        key.HasCurve ∧ 255 < context.length) ∧
      ((∃ s, ofKey key mode context = .ok s ∧ s.Binds key mode context) ↔
        key.HasCurve ∧ context.length ≤ 255)) ∧
    (key.HasCurve ↔
      key.curveName ∈ ["ed25519", "Ed25519", "eD25519", "ED25519"] ∧ key.publicHalf ≠ none) := by
  refine ⟨fun modeName => ?_, fun mode => ofKey_outcomes key mode context, Key.hasCurve_iff⟩
  by_cases hmode : modeName = "rfc8032"
  · subst hmode
    simp only [ofKeyNamed_rfc8032, ofKey_outcomes, true_and, ne_eq, not_true_eq_false, iff_false]
    exact ⟨ofKey_ne_unsupportedMode key .rfc8032 context _, trivial⟩
  · simp [ofKeyNamed_of_ne hmode, hmode]

end Scheme

end EdwardsSignature
