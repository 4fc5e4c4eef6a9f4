import EdwardsSignature.Failure
import EdwardsSignature.Proofs.Text.Quoted

/-!
# Failures keep the errors that they come from

Eight kinds of errors become four kinds of failures, and what was a number or a name in an error is but
a part of the message then. Nothing is lost by that: failures of one kind and one context are told apart
by their messages, in which numbers end before something that is no digit and modes are quoted, and
the messages of different kinds of errors differ where the contexts may be the same. So different
errors become different failures (`Failure.ofError_injective`).

People are told as much: the text of a failure ends with the message of the error
(`Failure.exists_text_ofError_eq`).
-/

namespace EdwardsSignature

open Text

/-! ## Messages -/

theorem Rejection.label_injective : Function.Injective label := by
  intro rejection rejection' h
  cases rejection <;> cases rejection' <;> simp [label] at h ⊢

namespace Error

theorem message_unsupportedMode_inj {mode mode' : String}
    (h : (unsupportedMode mode).message = (unsupportedMode mode').message) : mode = mode' := by
  unfold message at h
  dsimp only at h
  rw [String.append_left_inj, String.append_right_inj] at h
  exact Quoted.encode_injective h

theorem message_keyMismatch_inj {curve curve' : String}
    (h : (keyMismatch curve).message = (keyMismatch curve').message) : curve = curve' := by
  unfold message at h
  dsimp only at h
  rwa [String.append_left_inj, String.append_right_inj] at h

theorem message_contextTooLong_inj {max max' actual actual' : ℕ}
    (h : (contextTooLong max actual).message = (contextTooLong max' actual').message) :
    max = max' ∧ actual = actual' := by
  unfold message at h
  simp only [String.append_assoc, String.append_right_inj] at h
  obtain ⟨hmax, hactual⟩ := Structural.number_append_inj rfl (by decide) h
  exact ⟨hmax, Structural.number_injective hactual⟩

theorem message_invalidPrehash_inj {expected expected' actual actual' : ℕ}
    (h : (invalidPrehash expected actual).message = (invalidPrehash expected' actual').message) :
    expected = expected' ∧ actual = actual' := by
  unfold message at h
  simp only [String.append_assoc, String.append_right_inj] at h
  obtain ⟨hexpected, hactual⟩ := Structural.number_append_inj rfl (by decide) h
  rw [String.append_left_inj] at hactual
  exact ⟨hexpected, Structural.number_injective hactual⟩

theorem message_notAuthentic_inj {rejection rejection' : Rejection}
    (h : (notAuthentic rejection).message = (notAuthentic rejection').message) :
    rejection = rejection' := by
  unfold message at h
  dsimp only at h
  rw [String.append_left_inj, String.append_right_inj] at h
  exact Rejection.label_injective h

/-- The message for a key of another curve does not begin like the message for bytes that are no point,
    where the context is the word for a curve. -/
theorem message_notAPoint_curve_ne (curve : String) :
    (notAPoint "curve").message ≠ (keyMismatch curve).message := by
  intro h
  have hlist := congrArg String.toList h
  unfold message at hlist
  simp at hlist

/-- Nor does the message for a missing private key, where the context is the word for signing. -/
theorem message_notAPoint_sign_ne : (notAPoint "sign").message ≠ privateKeyRequired.message := by
  intro h
  have hlist := congrArg String.toList h
  unfold message at hlist
  simp at hlist

end Error

/-! ## Failures -/

namespace Failure

/-- Different errors become different failures. -/
theorem ofError_injective : Function.Injective ofError := by
  intro e e' h
  -- The kind of failure and its context leave one kind of error, but in two contexts.
  cases e with
  | wrongLength context expected actual =>
    cases e' with
    | wrongLength context' expected' actual' =>
      simp only [ofError, invalidLength.injEq] at h
      obtain ⟨rfl, rfl, rfl⟩ := h
      rfl
    | _ => simp [ofError] at h
  | notAPoint context =>
    cases e' with
    | notAPoint context' => rw [(invalidKey.inj h).1]
    | keyMismatch curve =>
      obtain ⟨rfl, hmessage⟩ := invalidKey.inj h
      exact absurd hmessage (Error.message_notAPoint_curve_ne curve)
    | privateKeyRequired =>
      obtain ⟨rfl, hmessage⟩ := invalidKey.inj h
      exact absurd hmessage Error.message_notAPoint_sign_ne
    | _ => simp [ofError] at h
  | unsupportedMode mode =>
    cases e' with
    | unsupportedMode mode' => rw [Error.message_unsupportedMode_inj (invalidParameter.inj h).2]
    | _ => simp [ofError] at h
  | keyMismatch curve =>
    cases e' with
    | notAPoint context =>
      obtain ⟨rfl, hmessage⟩ := invalidKey.inj h
      exact absurd hmessage.symm (Error.message_notAPoint_curve_ne curve)
    | keyMismatch curve' => rw [Error.message_keyMismatch_inj (invalidKey.inj h).2]
    | _ => simp [ofError] at h
  | contextTooLong max actual =>
    cases e' with
    | contextTooLong max' actual' =>
      obtain ⟨rfl, rfl⟩ := Error.message_contextTooLong_inj (invalidParameter.inj h).2
      rfl
    | _ => simp [ofError] at h
  | privateKeyRequired =>
    cases e' with
    | notAPoint context =>
      obtain ⟨rfl, hmessage⟩ := invalidKey.inj h
      exact absurd hmessage.symm Error.message_notAPoint_sign_ne
    | privateKeyRequired => rfl
    | _ => simp [ofError] at h
  | invalidPrehash expected actual =>
    cases e' with
    | invalidPrehash expected' actual' =>
      obtain ⟨rfl, rfl⟩ := Error.message_invalidPrehash_inj (invalidParameter.inj h).2
      rfl
    | _ => simp [ofError] at h
  | notAuthentic rejection =>
    cases e' with
    | notAuthentic rejection' => rw [Error.message_notAuthentic_inj (invalidSignature.inj h).2]
    | _ => simp [ofError] at h

/-- The text of a failure ends with the message of the error. -/
theorem exists_text_ofError_eq (e : Error) : ∃ lead, (ofError e).text = lead ++ e.message := by
  cases e with
  | wrongLength context expected actual => exact ⟨"", String.empty_append.symm⟩
  | notAPoint context => exact ⟨"Invalid key: " ++ context ++ ": ", rfl⟩
  | unsupportedMode mode => exact ⟨"mode: ", rfl⟩
  | keyMismatch curve => exact ⟨"Invalid key: curve: ", rfl⟩
  | contextTooLong max actual => exact ⟨"context: ", rfl⟩
  | privateKeyRequired => exact ⟨"Invalid key: sign: ", rfl⟩
  | invalidPrehash expected actual => exact ⟨"prehash: ", rfl⟩
  | notAuthentic rejection => exact ⟨"Invalid signature: Ed25519 verify: ", rfl⟩

/-- As a failure, an error is still told from all others, and its message is still what people read at
    the end. -/
theorem ofError_faithful :
    Function.Injective ofError ∧ ∀ e : Error, ∃ lead, (ofError e).text = lead ++ e.message :=
  ⟨ofError_injective, exists_text_ofError_eq⟩

end Failure

end EdwardsSignature
